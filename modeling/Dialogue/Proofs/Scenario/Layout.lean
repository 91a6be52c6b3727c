import Dialogue.Proofs.Scenario.Refusing

/-!
The layout of a script. Blank lines and arguments may be put in between any two lines: they belong
to no block, so the steps stay what they were, and of a refusal only the number of the line is
another if it stands behind them. A script that ends its lines with a carriage return and a newline
is read like one that ends them with a newline.
-/

namespace Dialogue

namespace Script

variable {α β : Type}

-----------------------------------------------------------------------------------------
-- Putting in
-----------------------------------------------------------------------------------------

/-- A list with others put in behind its first so many. -/
def putIn (place : Nat) (others items : List α) : List α :=
  items.take place ++ others ++ items.drop place

/-- Putting nothing in changes nothing. -/
@[simp]
theorem putIn_nil (place : Nat) (items : List α)
    : putIn place [] items = items := by
  rw [putIn, List.append_nil, List.take_append_drop]

/-- What stands in a list or is put in stands in the list with it. -/
theorem mem_putIn {place : Nat} {others items : List α} {item : α}
    : item ∈ putIn place others items ↔ item ∈ items ∨ item ∈ others := by
  have parts : item ∈ items ↔ item ∈ items.take place ∨ item ∈ items.drop place := by
    rw [← List.mem_append, List.take_append_drop]
  rw [parts, putIn, List.mem_append, List.mem_append, or_right_comm]

/-- What is put in is seen among what is seen of the list, behind as many as are seen in front of
it.
-/
theorem filterMap_putIn (see : α → Option β) (place : Nat) (others items : List α)
    : (putIn place others items).filterMap see
      = putIn ((items.take place).countP fun item => (see item).isSome)
          (others.filterMap see) (items.filterMap see) := by
  have parts : items.filterMap see
      = (items.take place).filterMap see ++ (items.drop place).filterMap see := by
    rw [← List.filterMap_append, List.take_append_drop]
  rw [parts, ← List.length_filterMap_eq_countP, putIn, putIn, List.take_left, List.drop_left,
    List.filterMap_append, List.filterMap_append]

/-- What is made of each item is made of those that are put in as well. -/
theorem map_putIn (make : α → β) (place : Nat) (others items : List α)
    : (putIn place others items).map make
      = putIn place (others.map make) (items.map make) := by
  simp only [putIn, List.map_append, List.map_take, List.map_drop]

/-- A script with lines put in behind its first so many, each as it is to be written. -/
def withLines (place : Nat) (others : List (List Char)) (text : String) : String :=
  String.ofList (['\n'].intercalate (putIn place others (text.toList.splitOn '\n')))

/-- The lines of a script with lines put in. -/
theorem lines_withLines {others : List (List Char)} (single : ∀ line ∈ others, '\n' ∉ line)
    (place : Nat) (text : String)
    : lines (withLines place others text)
      = putIn place (others.map Text.dropReturn) (lines text) := by
  have parted : ∀ piece ∈ putIn place others (text.toList.splitOn '\n'), '\n' ∉ piece := by
    intro piece member
    rcases mem_putIn.mp member with old | new
    · rw [← Text.pieces_eq_splitOn] at old
      exact Text.newline_not_mem_of_mem_pieces old
    · exact single piece new
  have some : putIn place others (text.toList.splitOn '\n') ≠ [] := by
    obtain ⟨piece, member⟩ := List.exists_mem_of_ne_nil _ (List.splitOn_ne_nil '\n' text.toList)
    exact List.ne_nil_of_mem (mem_putIn.mpr (.inl member))
  rw [lines, withLines, String.toList_ofList, List.splitOn_intercalate '\n' parted some,
    map_putIn, lines]

-----------------------------------------------------------------------------------------
-- Carriage returns in front of newlines
-----------------------------------------------------------------------------------------

/-- A text with a carriage return in front of each newline. -/
def addReturns (text : List Char) : List Char :=
  text.flatMap fun c => if c = '\n' then ['\r', '\n'] else [c]

/-- A script that ends each line with a carriage return and a newline. -/
def withReturns (text : String) : String :=
  String.ofList (addReturns text.toList)

/-- The carriage return at the end of a line is no concern of another character at its start. -/
theorem dropReturn_cons {c : Char} (other : c ≠ '\r') (line : List Char)
    : Text.dropReturn (c :: line) = c :: Text.dropReturn line := by
  cases line with
  | nil => simp [Text.dropReturn, other]
  | cons next rest =>
      rw [Text.dropReturn, Text.dropReturn, List.getLast?_cons_cons, List.dropLast_cons_cons]
      split <;> rfl

/-- The lines of a script without carriage returns are the same when it has one in front of each
newline. Witness: induction on the text; a carriage return is a line of its own or extends the one
that the rest begins with, and is dropped from it.
-/
theorem lines_withReturns {text : String} (bare : '\r' ∉ text.toList)
    : lines (withReturns text) = lines text := by
  simp only [lines, withReturns, String.toList_ofList]
  generalize text.toList = text at bare
  induction text with
  | nil => rfl
  | cons c rest ih =>
      have other : c ≠ '\r' := fun same => bare (same ▸ List.mem_cons_self)
      have same := ih fun member => bare (List.mem_cons_of_mem _ member)
      -- A character that is no carriage return goes in front of the first line either way.
      have first
          : ∀ pieces : List (List Char),
              (pieces.modifyHead (c :: ·)).map Text.dropReturn
                = (pieces.map Text.dropReturn).modifyHead (c :: ·) := by
        intro pieces
        cases pieces with
        | nil => rfl
        | cons piece others =>
            rw [List.modifyHead_cons, List.map_cons, List.map_cons, List.modifyHead_cons,
              dropReturn_cons other]
      by_cases newline : c = '\n'
      · subst newline
        have ending : addReturns ('\n' :: rest) = '\r' :: '\n' :: addReturns rest := rfl
        rw [ending, List.splitOn_cons_eq_if_modifyHead, if_neg (by decide),
          List.splitOn_cons_eq_if_modifyHead, if_pos (by decide),
          List.splitOn_cons_eq_if_modifyHead, if_pos (by decide), List.modifyHead_cons,
          List.map_cons, List.map_cons, same]
        rfl
      · have kept : addReturns (c :: rest) = c :: addReturns rest := by
          rw [addReturns, List.flatMap_cons, if_neg newline]
          rfl
        have apart : ¬ (c == '\n') = true := mt beq_iff_eq.mp newline
        rw [kept, List.splitOn_cons_eq_if_modifyHead, if_neg apart,
          List.splitOn_cons_eq_if_modifyHead, if_neg apart, first, first, same]

-----------------------------------------------------------------------------------------
-- Lines of no block
-----------------------------------------------------------------------------------------

/-- A line of no block is not reserved. -/
theorem isReserved_of_not_isSignificant {line : List Char}
    (idle : isSignificant line = false)
    : isReserved line = false := by
  refine Bool.eq_false_iff.mpr fun reserved => ?_
  simp only [isReserved, Bool.or_eq_true, begins, List.isPrefixOf_iff_prefix] at reserved
  rcases reserved with ⟨rest, rfl⟩ | ⟨rest, rfl⟩ <;> cases idle

variable {place : Nat} {others lines : List (List Char)}

/-- Empty lines say no arguments. -/
theorem arguments_replicate_nil (count : Nat)
    : arguments (List.replicate count []) = [] := by
  rw [arguments, List.filterMap_replicate_of_none rfl, List.map_nil]

/-- Lines of no block leave the steps as they are. -/
theorem steps_putIn (idle : ∀ line ∈ others, isSignificant line = false)
    : steps (putIn place others lines) = steps lines := by
  have none : others.filter isSignificant = [] :=
    List.filter_eq_nil_iff.mpr fun line member => Bool.eq_false_iff.mp (idle line member)
  have same : (putIn place others lines).filter isSignificant = lines.filter isSignificant := by
    rw [putIn, List.filter_append, List.filter_append, none, List.append_nil,
      ← List.filter_append, List.take_append_drop]
  rw [steps, steps, blocks, blocks, same]

/-- The arguments that are put in come behind those of the lines in front of them. -/
theorem arguments_putIn (place : Nat) (others lines : List (List Char))
    : arguments (putIn place others lines)
      = putIn ((lines.take place).countP (begins "$$ ")) (arguments others)
          (arguments lines) := by
  have seen : (fun line => (behind? "$$ " line).isSome) = begins "$$ " := by
    funext line
    rw [behind?, begins, List.isSome_isPrefixOf?_eq_isPrefixOf]
  rw [arguments, filterMap_putIn, map_putIn, seen]
  rfl

/-- Lines of no block keep the first reserved line the first; by cases on whether it stands behind
them, which makes its number larger by as many.
-/
theorem FirstReserved.putIn {number : Nat} {line : List Char}
    (first : FirstReserved lines number line)
    (idle : ∀ line ∈ others, isSignificant line = false) (place : Nat)
    : FirstReserved (putIn place others lines)
        (if place < number then number + others.length else number) line := by
  cases first with
  | @intro before after _ split unreserved reserved =>
      subst split
      by_cases behind : place ≤ before.length
      · have lengthened : before.length + 1 + others.length
            = (Script.putIn place others before).length + 1 := by
          simp only [Script.putIn, List.length_append, List.length_take, List.length_drop]
          omega
        have parted : Script.putIn place others (before ++ line :: after)
            = Script.putIn place others before ++ line :: after := by
          rw [Script.putIn, Script.putIn, List.take_append_of_le_length behind,
            List.drop_append_of_le_length behind, List.append_assoc _ _ (line :: after)]
        rw [if_pos (Nat.lt_succ_of_le behind), lengthened]
        refine .intro parted (unreserved_iff.mpr fun other member => ?_) reserved
        rcases mem_putIn.mp member with old | new
        · exact unreserved_iff.mp unreserved other old
        · exact isReserved_of_not_isSignificant (idle other new)
      · obtain ⟨more, rfl⟩ : ∃ more, place = before.length + (more + 1) :=
          ⟨place - before.length - 1, by omega⟩
        have parted : Script.putIn (before.length + (more + 1)) others (before ++ line :: after)
            = before ++ line :: Script.putIn more others after := by
          rw [Script.putIn, List.take_length_add_append, List.drop_length_add_append,
            List.take_succ_cons, List.drop_succ_cons, List.append_assoc, List.append_assoc,
            Script.putIn, List.append_assoc, List.cons_append]
        rw [if_neg (by omega)]
        exact .intro parted unreserved reserved

end Script

-----------------------------------------------------------------------------------------
-- Reading a script with lines put in
-----------------------------------------------------------------------------------------

/-- What is read depends on the lines of the text alone. -/
theorem Scenario.read_congr {text other : String} (name : String)
    (same : Script.lines text = Script.lines other)
    : read name text = read name other := by
  rw [read, read, Script.linesOf_eq, Script.linesOf_eq, same]

/-- A refusal once so many lines were put in behind the first so many: that of a line which stands
behind them is about a line with a larger number.
-/
def ReservedDirective.moved (place count : Nat) (e : ReservedDirective) : ReservedDirective :=
  if place < e.line then { e with line := e.line + count } else e

/-- A scenario with arguments put in behind its first so many. -/
def Scenario.withArguments (place : Nat) (others : List String) (scenario : Scenario)
    : Scenario :=
  { scenario with arguments := Script.putIn place others scenario.arguments }

/-- A scenario without more arguments is the same. -/
theorem Scenario.withArguments_nil (place : Nat)
    : withArguments place [] = id := by
  funext scenario
  rw [withArguments, Script.putIn_nil, id]

/-- A script with lines of no block put in is read like the script without them, with the arguments
of these lines put in, or is refused for the same line where that now stands; by cases on whether a
line is reserved.
-/
theorem Scenario.read_putIn {text edited : String} {place : Nat} {others : List (List Char)}
    (put : Script.lines edited = Script.putIn place others (Script.lines text))
    (idle : ∀ line ∈ others, Script.isSignificant line = false) (name : String)
    : read name edited
      = ((read name text).map
          (withArguments (((Script.lines text).take place).countP (Script.begins "$$ "))
            (Script.arguments others))).mapError
          (ReservedDirective.moved place others.length) := by
  by_cases unreserved : Script.Unreserved (Script.lines text)
  · have still : Script.Unreserved (Script.lines edited) := by
      refine Script.unreserved_iff.mpr fun line member => ?_
      rcases Script.mem_putIn.mp (put ▸ member) with old | new
      · exact Script.unreserved_iff.mp unreserved line old
      · exact Script.isReserved_of_not_isSignificant (idle line new)
    rw [read_eq_blocks name edited still, read_eq_blocks name text unreserved, put,
      Script.steps_putIn idle, Script.arguments_putIn]
    rfl
  · have reserved : ∃ line ∈ Script.lines text, Script.isReserved line = true := by
      simpa [Script.unreserved_iff] using unreserved
    obtain ⟨number, line, first⟩ := Script.exists_firstReserved reserved
    have refused : read name text = .error ⟨Script.directiveOf line, number⟩ :=
      read_eq_error_iff.mpr ⟨number, line, first, rfl⟩
    have moved := first.putIn idle place
    rw [← put] at moved
    rw [refused, read_eq_error_iff.mpr ⟨_, line, moved, rfl⟩]
    simp only [Except.map, Except.mapError, ReservedDirective.moved]
    split <;> rfl

/-- The layout of a script does not matter. Blank lines that are put in change nothing but the
number of a refused line behind them; an argument line joins the arguments behind those of the lines
in front of it, and leaves the rest alone; and a script without carriage returns is read alike when
it has one in front of each newline.
-/
theorem script_read_alike_in_other_layout (name text : String)
    : (∀ place blanks,
          (∀ line ∈ blanks, line = [] ∨ line = ['\r'])
          → Scenario.read name (Script.withLines place blanks text)
            = (Scenario.read name text).mapError (.moved place blanks.length))
        ∧ (∀ place argument,
            '\n' ∉ argument
            → argument.getLast? ≠ some '\r'
            → Scenario.read name (Script.withLines place ["$$ ".toList ++ argument] text)
              = ((Scenario.read name text).map
                  (.withArguments
                    (((Script.lines text).take place).countP (Script.begins "$$ "))
                    [String.ofList argument])).mapError
                  (.moved place 1))
        ∧ ('\r' ∉ text.toList
            → Scenario.read name (Script.withReturns text) = Scenario.read name text) := by
  refine ⟨?_, ?_, fun bare => Scenario.read_congr name (Script.lines_withReturns bare)⟩
  · intro place blanks blank
    have single : ∀ line ∈ blanks, '\n' ∉ line := by
      intro line member
      rcases blank line member with rfl | rfl <;> decide
    have empty : blanks.map Text.dropReturn = List.replicate blanks.length [] := by
      refine List.map_eq_replicate_iff.mpr fun line member => ?_
      rcases blank line member with rfl | rfl <;> rfl
    have put := Script.lines_withLines single place text
    rw [empty] at put
    have idle : ∀ line ∈ List.replicate blanks.length ([] : List Char),
        Script.isSignificant line = false := by
      intro line member
      rw [List.eq_of_mem_replicate member]
      rfl
    rw [Scenario.read_putIn put idle name, Script.arguments_replicate_nil,
      Scenario.withArguments_nil, Except.map_id, List.length_replicate]
    rfl
  · intro place argument single kept
    have plain : Text.dropReturn argument = argument := if_neg kept
    have whole : ["$$ ".toList ++ argument].map Text.dropReturn = ["$$ ".toList ++ argument] := by
      change [Text.dropReturn ('$' :: '$' :: ' ' :: argument)] = _
      rw [Script.dropReturn_cons (by decide), Script.dropReturn_cons (by decide),
        Script.dropReturn_cons (by decide), plain]
      rfl
    have alone : ∀ line ∈ ["$$ ".toList ++ argument], '\n' ∉ line := by
      simpa using single
    have put := Script.lines_withLines alone place text
    rw [whole] at put
    have idle : ∀ line ∈ ["$$ ".toList ++ argument], Script.isSignificant line = false :=
      List.forall_mem_singleton.mpr rfl
    have said : Script.arguments ["$$ ".toList ++ argument] = [String.ofList argument] := rfl
    rw [Scenario.read_putIn put idle name, said, List.length_singleton]

/-- Between a comment and its input, where the comment still waits: two blank lines leave the script
as it was, or move the refusal of a line behind them by two, and an argument comes behind the one in
front of it; and the script is read alike with carriage returns.
-/
theorem script_read_alike_in_other_layout_behind_comment
    : let text := "$$ -v\n# ask\n> go\none\n"
      let scenario : Scenario := {
        name := "talk"
        arguments := ["-v"]
        steps := [
          { comment := some "ask", input := some "go\n", output := some "one\n", closes := true }
        ]
      }
      Scenario.read "talk" text = .ok scenario
        ∧ Scenario.read "talk" "$$ -v\n# ask\n\n\r\n> go\none\n" = .ok scenario
        ∧ Scenario.read "talk" "# ask\n\n\r\n<left" = .error ⟨"<l", 4⟩
        ∧ Scenario.read "talk" "$$ -v\n# ask\n$$ -x y\n> go\none\n"
          = .ok { scenario with arguments := ["-v", "-x y"] }
        ∧ Scenario.read "talk" "$$ -v\r\n# ask\r\n> go\r\none\r\n" = .ok scenario := by
  intro text scenario
  have read : Scenario.read "talk" text = .ok scenario := by decide +kernel
  have refused : Scenario.read "talk" "# ask\n<left" = .error ⟨"<l", 2⟩ := by decide +kernel
  have blank : Script.withLines 2 [[], ['\r']] text = "$$ -v\n# ask\n\n\r\n> go\none\n" := by
    decide +kernel
  have behind : Script.withLines 1 [[], ['\r']] "# ask\n<left" = "# ask\n\n\r\n<left" := by
    decide +kernel
  have argument
      : Script.withLines 2 ["$$ ".toList ++ "-x y".toList] text
        = "$$ -v\n# ask\n$$ -x y\n> go\none\n" := by
    decide +kernel
  have returns : Script.withReturns text = "$$ -v\r\n# ask\r\n> go\r\none\r\n" := by
    decide +kernel
  have earlier : ((Script.lines text).take 2).countP (Script.begins "$$ ") = 1 := by
    decide +kernel
  obtain ⟨blanks, arguments, bare⟩ := script_read_alike_in_other_layout "talk" text
  obtain ⟨moves, -, -⟩ := script_read_alike_in_other_layout "talk" "# ask\n<left"
  have parted := blanks 2 [[], ['\r']] (by decide)
  have moved := moves 1 [[], ['\r']] (by decide)
  have joined := arguments 2 "-x y".toList (by decide) (by decide)
  have returned := bare (by decide)
  rw [blank, read] at parted
  rw [behind, refused] at moved
  rw [argument, earlier, read] at joined
  rw [returns, read] at returned
  exact ⟨read, parted, moved, joined, returned⟩

end Dialogue
