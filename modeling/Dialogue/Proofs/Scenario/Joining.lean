import Dialogue.Proofs.Scenario.Refusing
import Dialogue.Proofs.Scenario.Writing

/-!
Scripts that are put one behind the other. Their lines come one after the other, so the whole is
refused for the first reserved line of either. If the second begins with a line that opens a block,
no block reaches across the seam: the whole has the steps of both, and only the very last closes.
-/

namespace Dialogue

namespace Script

variable {first second : List (List Char)}

-----------------------------------------------------------------------------------------
-- The seam between two scripts
-----------------------------------------------------------------------------------------

/-- The lines of a script that was put behind another, from a new line on. -/
theorem lines_join (first second : String)
    : lines (first ++ "\n" ++ second) = lines first ++ lines second := by
  have joined
      : (first ++ "\n" ++ second).toList = first.toList ++ '\n' :: second.toList := by
    simp
  rw [lines, joined, List.splitOn_append_cons_self, List.map_append]
  rfl

/-- No block reaches from the first of two scripts into the second: one of them has no significant
line, or the first such line of the second is a comment, or it is an input and the last such line of
the first is no comment.
-/
inductive Parted (first second : List (List Char)) : Prop
  | nothingBefore (none : first.filter isSignificant = [])
  | nothingBehind (none : second.filter isSignificant = [])
  | comment {line : List Char} (next : (second.filter isSignificant).head? = some line)
    (comment : begins "#" line = true)
  | input {last line : List Char} (next : (second.filter isSignificant).head? = some line)
    (input : begins "> " line = true)
    (before : (first.filter isSignificant).getLast? = some last)
    (other : begins "#" last = false)

/-- Where two scripts are parted, no line joins across the seam, by cases on why they are. -/
theorem Parted.joins_eq_false (parted : Parted first second)
    : ∀ last ∈ (first.filter isSignificant).getLast?,
        ∀ line ∈ (second.filter isSignificant).head?, joins last line = false := by
  intro last before line next
  cases parted with
  | nothingBefore none =>
      rw [none] at before
      cases before
  | nothingBehind none =>
      rw [none] at next
      cases next
  | comment opens comment =>
      cases Option.mem_unique next opens
      rw [joins, if_pos comment]
  | input opens input ends other =>
      cases Option.mem_unique next opens
      cases Option.mem_unique before ends
      rw [joins, if_pos input, other, ite_self]

/-- Lines that are parted have the blocks of both. -/
theorem Parted.blocks_append (parted : Parted first second)
    : blocks (first ++ second) = blocks first ++ blocks second := by
  rw [blocks, List.filter_append, List.splitBy_append parted.joins_eq_false]
  rfl

-----------------------------------------------------------------------------------------
-- Steps and arguments of both
-----------------------------------------------------------------------------------------

/-- The steps of a script before the last of them is made to close. -/
def openSteps (lines : List (List Char)) : List Step :=
  ((blocks lines).filter Block.isStep).map Block.step

/-- A script without steps has none before the last is made to close, either. -/
theorem steps_eq_nil_iff (lines : List (List Char))
    : steps lines = [] ↔ openSteps lines = [] := by
  change (openSteps lines).modifyLast Step.closing = [] ↔ _
  rcases List.eq_nil_or_concat' (openSteps lines) with none | ⟨before, last, some⟩
  · rw [none]
    rfl
  · rw [some, List.modifyLast_concat]
    simp

/-- Only the last step of a script closes, so the steps are as before once none of them does. -/
theorem map_unclosed_steps (lines : List (List Char))
    : (steps lines).map Step.unclosed = openSteps lines := by
  change ((openSteps lines).modifyLast Step.closing).map Step.unclosed = _
  rw [Step.map_modifyLast Step.unclosed fun _ => rfl, openSteps, List.map_map]
  rfl

/-- The steps of parted scripts are those of the one, of which none closes, and then those of the
other; where there are no others, the last of the one still closes.
-/
theorem Parted.steps_append (parted : Parted first second)
    : steps (first ++ second)
      = if steps second = [] then steps first
        else (steps first).map Step.unclosed ++ steps second := by
  have both : openSteps (first ++ second) = openSteps first ++ openSteps second := by
    rw [openSteps, parted.blocks_append, List.filter_append, List.map_append]
    rfl
  change (openSteps (first ++ second)).modifyLast Step.closing = _
  rw [both]
  split
  · next none =>
      rw [(steps_eq_nil_iff second).mp none, List.append_nil]
      rfl
  · -- The last step of both is the last of the second, and the first script has none that closes.
    next some =>
      have filled : openSteps second ≠ [] := mt (steps_eq_nil_iff second).mpr some
      rw [List.modifyLast_append_of_right_ne_nil _ _ _ filled, map_unclosed_steps]
      rfl

/-- Lines one after the other have the arguments of both. -/
theorem arguments_append (first second : List (List Char))
    : arguments (first ++ second) = arguments first ++ arguments second := by
  rw [arguments, List.filterMap_append, List.map_append]
  rfl

-----------------------------------------------------------------------------------------
-- The first reserved line of both
-----------------------------------------------------------------------------------------

variable {number : Nat} {line : List Char}

/-- The first reserved line stays the first, whatever is put behind it. -/
theorem FirstReserved.append (reserved : FirstReserved first number line)
    (second : List (List Char))
    : FirstReserved (first ++ second) number line := by
  cases reserved with
  | intro split unreserved is =>
      exact .intro (by rw [split, List.append_assoc, List.cons_append]) unreserved is

/-- Behind lines that are not reserved the first reserved line is the first, and its number is
larger by as many.
-/
theorem FirstReserved.behind (reserved : FirstReserved second number line)
    (unreserved : Unreserved first)
    : FirstReserved (first ++ second) (first.length + number) line := by
  cases reserved with
  | @intro before after _ split others is =>
      rw [← Nat.add_assoc, ← List.length_append]
      refine .intro (by rw [split, List.append_assoc]) ?_ is
      exact List.forall_mem_append.mpr ⟨unreserved, others⟩

end Script

namespace Scenario

-----------------------------------------------------------------------------------------
-- Reading both
-----------------------------------------------------------------------------------------

/-- A text that was read has no reserved line. -/
theorem unreserved_of_read {name text : String} {scenario : Scenario}
    (accepted : read name text = .ok scenario)
    : Script.Unreserved (Script.lines text) := by
  refine Script.unreserved_iff.mpr fun line member => Bool.eq_false_iff.mpr fun reserved => ?_
  obtain ⟨number, line, first⟩ := Script.exists_firstReserved ⟨line, member, reserved⟩
  cases accepted.symm.trans (read_eq_error_iff.mpr ⟨number, line, first, rfl⟩)

/-- A scenario that goes on with another one: it has the arguments and the steps of both, and of the
steps only the very last closes.
-/
def followedBy (scenario next : Scenario) : Scenario :=
  {
    scenario with
    arguments := scenario.arguments ++ next.arguments
    steps :=
      if next.steps = [] then scenario.steps
      else scenario.steps.map Step.unclosed ++ next.steps
  }

end Scenario

/-- A script that is put behind another from a new line on. If the first is refused, so is the
whole, in the same way; if only the second is, the whole is refused for the same directive as many
lines further on as the first has. If both are read and parted, the whole is read as the one
scenario followed by the other.
-/
theorem script_read_as_its_parts (name first second : String)
    : (∀ e,
          Scenario.read name first = .error e
          → Scenario.read name (first ++ "\n" ++ second) = .error e)
        ∧ (∀ scenario e,
            Scenario.read name first = .ok scenario
            → Scenario.read name second = .error e
            → Scenario.read name (first ++ "\n" ++ second)
              = .error { e with line := e.line + (first.toList.splitOn '\n').length })
        ∧ ∀ scenario next,
            Scenario.read name first = .ok scenario
            → Scenario.read name second = .ok next
            → Script.Parted (Script.lines first) (Script.lines second)
            → Scenario.read name (first ++ "\n" ++ second) = .ok (scenario.followedBy next) := by
  have lines := Script.lines_join first second
  refine ⟨?_, ?_, ?_⟩
  · intro e refused
    obtain ⟨number, line, reserved, rfl⟩ := Scenario.read_eq_error_iff.mp refused
    refine Scenario.read_eq_error_iff.mpr ⟨number, line, ?_, rfl⟩
    rw [lines]
    exact reserved.append _
  · intro scenario e accepted refused
    obtain ⟨number, line, reserved, rfl⟩ := Scenario.read_eq_error_iff.mp refused
    refine Scenario.read_eq_error_iff.mpr
      ⟨number + (first.toList.splitOn '\n').length, line, ?_, rfl⟩
    have count : (first.toList.splitOn '\n').length = (Script.lines first).length :=
      (List.length_map _).symm
    rw [lines, count, Nat.add_comm]
    exact reserved.behind (Scenario.unreserved_of_read accepted)
  · intro scenario next accepted acceptedToo parted
    have before := Scenario.unreserved_of_read accepted
    have behind := Scenario.unreserved_of_read acceptedToo
    have whole : Script.Unreserved (Script.lines (first ++ "\n" ++ second)) := by
      rw [lines]
      exact List.forall_mem_append.mpr ⟨before, behind⟩
    rw [Scenario.read_eq_blocks name first before] at accepted
    rw [Scenario.read_eq_blocks name second behind] at acceptedToo
    cases accepted
    cases acceptedToo
    rw [Scenario.read_eq_blocks name _ whole, lines, Script.arguments_append,
      parted.steps_append]
    rfl

/-- A comment that waits at the end of the first script takes up nothing behind the seam, where
another comment and an input stand. A script of comments leaves the first one as it is. A directive
in the second line of the second script is refused in the sixth of the whole, and one in the second
line of the first there.
-/
theorem script_read_as_its_parts_at_waiting_comment
    : let first := "$$ -v\n> go\none\n# later"
      let second := "# again\r\n$$ -x\n> on\n<e"
      let remarks := "# end\n\n"
      let scenario : Scenario := {
        name := "talk"
        arguments := ["-v"]
        steps := [{ input := some "go\n", output := some "one\n", closes := true }]
      }
      Scenario.read "talk" (first ++ "\n" ++ second)
          = .ok {
            name := "talk"
            arguments := ["-v", "-x"]
            steps := [
              { input := some "go\n", output := some "one\n" },
              { comment := some "again", input := some "on\n", onStderr := true, closes := true }
            ]
          }
        ∧ Scenario.read "talk" (first ++ "\n" ++ remarks) = .ok scenario
        ∧ Scenario.read "talk" (first ++ "\n" ++ "a\n<loop") = .error ⟨"<l", 6⟩
        ∧ Scenario.read "talk" ("\n<r\n<l" ++ "\n" ++ second) = .error ⟨"<r", 2⟩ := by
  intro first second remarks scenario
  have readFirst : Scenario.read "talk" first = .ok scenario := by decide +kernel
  have readSecond
      : Scenario.read "talk" second
        = .ok {
          name := "talk"
          arguments := ["-x"]
          steps := [
            { comment := some "again", input := some "on\n", onStderr := true, closes := true }
          ]
        } := by
    decide +kernel
  have readRemarks : Scenario.read "talk" remarks = .ok { name := "talk" } := by decide +kernel
  have refused : Scenario.read "talk" "a\n<loop" = .error ⟨"<l", 2⟩ := by decide +kernel
  have refusedFirst : Scenario.read "talk" "\n<r\n<l" = .error ⟨"<r", 2⟩ := by decide +kernel
  have again
      : ((Script.lines second).filter Script.isSignificant).head? = some "# again".toList := by
    decide +kernel
  have remark
      : ((Script.lines remarks).filter Script.isSignificant).head? = some "# end".toList := by
    decide +kernel
  have count : (first.toList.splitOn '\n').length = 4 := by decide +kernel
  have moved := (script_read_as_its_parts "talk" first "a\n<loop").2.1 _ _ readFirst refused
  rw [count] at moved
  exact ⟨(script_read_as_its_parts "talk" first second).2.2 _ _ readFirst readSecond
      (.comment again rfl),
    (script_read_as_its_parts "talk" first remarks).2.2 _ _ readFirst readRemarks
      (.comment remark rfl),
    moved,
    (script_read_as_its_parts "talk" "\n<r\n<l" second).1 _ refusedFirst⟩

end Dialogue
