import Dialogue.Peer.Canned
import Dialogue.Proofs.Scenario.Grouping
import Dialogue.Proofs.Text.Decoding
import Dialogue.Run.Basic

/-!
Scripts that are refused. A script is refused just if one of its lines begins with a reserved
directive, whatever else stands in it, and the refusal is about the first such line: it names the
directive and the number of the line, for which every line counts. A run that reads such a script
fails with that number, and with the script as it was given.
-/

namespace Dialogue

-----------------------------------------------------------------------------------------
-- The first reserved line
-----------------------------------------------------------------------------------------

namespace Script

/-- Whether a line begins with a reserved directive. -/
def isReserved (line : List Char) : Bool :=
  begins "<r" line || begins "<l" line

/-- The line with this number, the first being 1, is reserved, and none in front of it is. -/
inductive FirstReserved (lines : List (List Char)) : Nat → List Char → Prop
  | intro {before after : List (List Char)} {line : List Char}
    (split : lines = before ++ line :: after) (unreserved : Unreserved before)
    (reserved : isReserved line = true)
    : FirstReserved lines (before.length + 1) line

/-- The directive that a reserved line is taken for: its first two characters. -/
def directiveOf (line : List Char) : String :=
  String.ofList (line.take 2)

/-- A line that is taken for a directive begins with it. -/
theorem ofText_eq_reserved {line : List Char} {directive : Directive}
    (taken : Line.ofText line = .reserved directive)
    : isReserved line = true ∧ directiveOf line = directive.text := by
  have means := Line.means_ofText line
  rw [taken] at means
  cases means
  cases directive <;> exact ⟨rfl, rfl⟩

/-- A line that begins with a directive is taken for it. -/
theorem exists_ofText_eq_reserved {line : List Char} (reserved : isReserved line = true)
    : ∃ directive, Line.ofText line = .reserved directive := by
  simp only [isReserved, Bool.or_eq_true, begins, List.isPrefixOf_iff_prefix] at reserved
  rcases reserved with ⟨rest, rfl⟩ | ⟨rest, rfl⟩
  · exact ⟨.r, rfl⟩
  · exact ⟨.l, rfl⟩

/-- No line is reserved just if each is found not to be. -/
theorem unreserved_iff {lines : List (List Char)}
    : Unreserved lines ↔ ∀ line ∈ lines, isReserved line = false := by
  simp only [Unreserved, isReserved, Bool.or_eq_false_iff]

/-- Where a line is reserved, there is a first one that is, by induction on the lines. -/
theorem exists_firstReserved {lines : List (List Char)}
    (reserved : ∃ line ∈ lines, isReserved line = true)
    : ∃ number line, FirstReserved lines number line := by
  obtain ⟨line, found⟩ := Option.isSome_iff_exists.mp (List.find?_isSome.mpr reserved)
  obtain ⟨is, before, after, split, apart⟩ := List.find?_eq_some_iff_append.mp found
  refine ⟨before.length + 1, line, .intro split ?_ is⟩
  exact unreserved_iff.mpr fun other member => by simpa using apart other member

end Script

-----------------------------------------------------------------------------------------
-- What is refused
-----------------------------------------------------------------------------------------

/-- A draft refuses lines at the first that is reserved, by induction on them. -/
theorem Draft.addAll_eq_error_iff {draft : Draft} {number : Nat} {lines : List Line}
    {e : ReservedDirective}
    : draft.addAll number lines = .error e
      ↔ ∃ before directive after,
          lines = before ++ .reserved directive :: after
            ∧ (∀ other, .reserved other ∉ before)
            ∧ e = ⟨directive.text, number + before.length⟩ := by
  induction lines generalizing draft number with
  | nil => simp [addAll]
  | cons line lines ih =>
      by_cases unreserved : ∀ directive, line ≠ .reserved directive
      · simp only [addAll, add_eq_ok unreserved, ih]
        constructor
        · rintro ⟨before, directive, after, rfl, apart, rfl⟩
          refine ⟨line :: before, directive, after, rfl, ?_, ?_⟩
          · intro other
            rw [List.mem_cons, not_or]
            exact ⟨Ne.symm (unreserved other), apart other⟩
          · rw [List.length_cons, Nat.add_assoc, Nat.add_comm 1]
        · rintro ⟨before, directive, after, split, apart, rfl⟩
          cases before with
          | nil => exact absurd (List.cons.inj split).1 (unreserved directive)
          | cons first before =>
              obtain ⟨rfl, rfl⟩ := List.cons.inj split
              refine ⟨before, directive, after, rfl, ?_, ?_⟩
              · exact fun other member => apart other (List.mem_cons_of_mem _ member)
              · rw [List.length_cons, Nat.add_assoc, Nat.add_comm 1]
      · obtain ⟨directive, rfl⟩ := not_forall_not.mp unreserved
        have refused : draft.addAll number (.reserved directive :: lines)
            = .error ⟨directive.text, number⟩ :=
          rfl
        rw [refused]
        constructor
        · rintro ⟨⟩
          exact ⟨[], directive, lines, rfl, fun _ => List.not_mem_nil, rfl⟩
        · rintro ⟨before, other, after, split, apart, rfl⟩
          cases before with
          | nil =>
              cases split
              rfl
          | cons first before =>
              obtain ⟨rfl, -⟩ := List.cons.inj split
              exact absurd List.mem_cons_self (apart directive)

namespace Script

/-- The first reserved line of a script is the first that is taken for a directive. -/
theorem firstReserved_iff {lines : List (List Char)} {e : ReservedDirective}
    : (∃ number line, FirstReserved lines number line ∧ e = ⟨directiveOf line, number⟩)
      ↔ ∃ before directive after,
          lines.map Line.ofText = before ++ .reserved directive :: after
            ∧ (∀ other, .reserved other ∉ before)
            ∧ e = ⟨directive.text, 1 + before.length⟩ := by
  constructor
  · rintro ⟨number, line, first, rfl⟩
    cases first with
    | @intro before after _ split unreserved reserved =>
        obtain ⟨directive, taken⟩ := exists_ofText_eq_reserved reserved
        refine ⟨before.map Line.ofText, directive, after.map Line.ofText, ?_,
          unreserved.reserved_not_mem, ?_⟩
        · rw [split, List.map_append, List.map_cons, taken]
        · rw [(ofText_eq_reserved taken).2, List.length_map, Nat.add_comm]
  · rintro ⟨_, directive, _, parted, apart, rfl⟩
    obtain ⟨before, rest, rfl, rfl, others⟩ := List.map_eq_append_iff.mp parted
    obtain ⟨line, after, rfl, taken, rfl⟩ := List.map_eq_cons_iff.mp others
    obtain ⟨reserved, same⟩ := ofText_eq_reserved taken
    refine ⟨before.length + 1, line, .intro rfl ?_ reserved, ?_⟩
    · refine unreserved_iff.mpr fun other member => Bool.eq_false_iff.mpr fun is => ?_
      obtain ⟨directive, same⟩ := exists_ofText_eq_reserved is
      exact apart directive (List.mem_map.mpr ⟨other, member, same⟩)
    · rw [same, List.length_map, Nat.add_comm]

end Script

/-- A script is refused for the first line of its text that is reserved. -/
theorem Scenario.read_eq_error_iff {name text : String} {e : ReservedDirective}
    : read name text = .error e
      ↔ ∃ number line,
          Script.FirstReserved (Script.lines text) number line
            ∧ e = ⟨Script.directiveOf line, number⟩ := by
  have refused
      : read name text = .error e ↔ Draft.addAll {} 1 (linesOf text.toList) = .error e := by
    unfold read
    cases Draft.addAll {} 1 (linesOf text.toList) <;> simp [Except.map]
  rw [refused, Draft.addAll_eq_error_iff, Script.linesOf_eq, Script.firstReserved_iff]

/-- The failure of a run with a script of which this is the first reserved line: it is about the
script as it was given, and about the line.
-/
def Script.refusal (script : Path) (number : Nat) (line : List Char) : Failure :=
  {
    kind := .unsupportedDirective
    message := "unsupported directive '" ++ directiveOf line ++ "'"
    file := some (Path.text script)
    line := some number
  }

/-- A run that has read the text of a script fails for the first line of it that is reserved. -/
theorem Run.readScenario_eq_error_iff {η σ : Type} [Host η σ] {settings : Settings}
    {script : Path} {host : η} {text : String}
    (found : readText settings script host = .ok text) {failure : Failure}
    : readScenario settings script host = .error failure
      ↔ ∃ number line,
          Script.FirstReserved (Script.lines text) number line
            ∧ failure = Script.refusal script number line := by
  have refused
      : readScenario settings script host = .error failure
        ↔ ∃ e,
            Scenario.read (nameOf (Path.join settings.baseDir script)) text = .error e
              ∧ (Failure.ofReserved e).atLine (Path.text script) e.line = failure := by
    rw [readScenario, found]
    dsimp only
    cases Scenario.read (nameOf (Path.join settings.baseDir script)) text <;>
      simp [Except.mapError]
  rw [refused]
  constructor
  · rintro ⟨e, read, rfl⟩
    obtain ⟨number, line, first, rfl⟩ := Scenario.read_eq_error_iff.mp read
    exact ⟨number, line, first, rfl⟩
  · rintro ⟨number, line, first, rfl⟩
    exact ⟨_, Scenario.read_eq_error_iff.mpr ⟨number, line, first, rfl⟩, rfl⟩

/-- A script is refused just if a line of its text begins with a reserved directive; then it is
refused for the first such line, and a run that has read the text fails for that line of the script.
-/
theorem script_refused_for_first_reserved (name text : String)
    : ((∃ e, Scenario.read name text = .error e)
          ↔ ∃ line ∈ Script.lines text, Script.isReserved line = true)
        ∧ (∀ e,
            Scenario.read name text = .error e
              ↔ ∃ number line,
                  Script.FirstReserved (Script.lines text) number line
                    ∧ e = ⟨Script.directiveOf line, number⟩)
        ∧ ∀ {η σ : Type} [Host η σ] (settings : Settings) (script : Path) (host : η),
            Run.readText settings script host = .ok text
            → ∀ failure,
                Run.readScenario settings script host = .error failure
                  ↔ ∃ number line,
                      Script.FirstReserved (Script.lines text) number line
                        ∧ failure = Script.refusal script number line := by
  refine ⟨?_, fun e => Scenario.read_eq_error_iff,
    fun settings script host found failure => Run.readScenario_eq_error_iff found⟩
  constructor
  · rintro ⟨e, refused⟩
    obtain ⟨number, line, first, -⟩ := Scenario.read_eq_error_iff.mp refused
    cases first with
    | intro split _ reserved =>
        exact ⟨line, split ▸ List.mem_append_right _ List.mem_cons_self, reserved⟩
  · intro reserved
    obtain ⟨number, line, first⟩ := Script.exists_firstReserved reserved
    exact ⟨_, Scenario.read_eq_error_iff.mpr ⟨number, line, first, rfl⟩⟩

/-- Surroundings in which there are texts at some paths, and no programs. -/
structure Shelf where
  text? : Path → Option String

instance : Host Shelf Canned where
  survey _ _ := none
  read shelf path :=
    match shelf.text? path with
    | some text => .ok (Text.octets text)
    | none => .error (.described .notFound none)
  canonical? _ path := some path
  start shelf _ := (.error (.described .notFound none), shelf)

/-- A run finds the text that is there. -/
theorem Shelf.readText_eq_ok {shelf : Shelf} {settings : Settings} {script : Path}
    {text : String} (there : shelf.text? (Path.join settings.baseDir script) = some text)
    : Run.readText settings script shelf = .ok text := by
  have read : Text.decode? (Text.octets text) = some text.toList :=
    Text.decode?_eq_some_iff.mpr rfl
  simp only [Run.readText, Host.read, there, read, String.ofList_toList]

/-- A script with directives in a remark, an argument, an input and a text, and a line that marks
stderr: none of them is refused, a blank line and one that ends with a carriage return count, and
the run fails for line 7 although a later line is reserved too.
-/
theorem script_refused_for_first_reserved_past_other_markers
    : let text := "# <r\r\n\r\n$$ <l\n> <r\n <l\n<e<r\n<left\n<r\n"
      let script : Path := Path.ofText "talk.scn"
      Run.readScenario {} script (Shelf.mk fun _ => some text)
        = .error {
            kind := .unsupportedDirective
            message := "unsupported directive '<l'"
            file := some "talk.scn"
            line := some 7
          } := by
  intro text script
  have there : Run.readText {} script (Shelf.mk fun _ => some text) = .ok text :=
    Shelf.readText_eq_ok rfl
  have split : Script.lines text
      = ["# <r", "", "$$ <l", "> <r", " <l", "<e<r"].map String.toList
        ++ "<left".toList :: ["<r", ""].map String.toList := by
    decide
  have first : Script.FirstReserved (Script.lines text) 7 "<left".toList :=
    .intro split (Script.unreserved_iff.mpr (by decide)) rfl
  exact ((script_refused_for_first_reserved "talk" text).2.2 {} script _ there _).mpr
    ⟨7, _, first, by decide⟩

end Dialogue
