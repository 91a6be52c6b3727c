import Dialogue.Proofs.Text.Splitting
import Dialogue.Scenario.Reading

/-!
The lines of a script, as they are written. A script is cut at its newlines, each line may begin
with one of six markers, and what a line says is decided by that marker alone; a line without one
is expected output.
-/

namespace Dialogue

-----------------------------------------------------------------------------------------
-- Lines and their markers
-----------------------------------------------------------------------------------------

namespace Script

/-- The lines of a script: the parts of its text between newlines, each without one carriage return
at its end.
-/
def lines (text : String) : List (List Char) :=
  (text.toList.splitOn '\n').map Text.dropReturn

/-- Whether a line begins with a marker. -/
def begins (marker : String) (line : List Char) : Bool :=
  marker.toList.isPrefixOf line

/-- The rest of a line behind a marker, if the line begins with the marker. -/
def behind? (marker : String) (line : List Char) : Option (List Char) :=
  marker.toList.isPrefixOf? line

/-- The markers of the lines that are not expected output. -/
def markers : List String :=
  ["> ", "<e", "#", "$$ ", "<r", "<l"]

/-- Whether a line is expected output: it is not empty and begins with no marker. -/
def isOutput (line : List Char) : Bool :=
  !line.isEmpty && markers.all fun marker => !begins marker line

/-- A text of lines, each with its newline. -/
def ended (lines : List (List Char)) : String :=
  String.ofList (lines.flatMap (· ++ ['\n']))

/-- The texts of lines come one after the other. -/
theorem ended_append (lines more : List (List Char))
    : ended (lines ++ more) = ended lines ++ ended more := by
  rw [ended, List.flatMap_append, String.ofList_append]
  rfl

/-- One line is written with its newline. -/
theorem ended_singleton (line : List Char)
    : ended [line] = Draft.withNewline line := by
  rw [ended, List.flatMap_singleton]
  rfl

/-- A line that does not begin with a marker is not what begins with it. -/
theorem begins_eq_false_iff {marker : String} {line : List Char}
    : begins marker line = false ↔ ∀ rest, line ≠ marker.toList ++ rest := by
  rw [← Bool.not_eq_true, begins, List.isPrefixOf_iff_prefix]
  exact ⟨fun apart rest eq => apart ⟨rest, eq.symm⟩, fun apart ⟨rest, eq⟩ => apart rest eq.symm⟩

/-- A line is expected output if there is something in it and it does not begin with a marker. -/
theorem isOutput_iff {line : List Char}
    : isOutput line = true
      ↔ line ≠ [] ∧ ∀ marker ∈ markers, ∀ rest, line ≠ marker.toList ++ rest := by
  simp [isOutput, begins_eq_false_iff]

/-- The lines that a scenario is read from are those of the script, each taken for what it says. -/
theorem linesOf_eq (text : String)
    : Scenario.linesOf text.toList = (lines text).map Line.ofText := by
  rw [Scenario.linesOf, lines, Text.pieces_eq_splitOn, List.map_map]
  rfl

/-- A line of a script has no newline. -/
theorem newline_not_mem {text : String} {line : List Char} (member : line ∈ lines text)
    : '\n' ∉ line := by
  rw [lines, ← Text.pieces_eq_splitOn] at member
  obtain ⟨piece, part, rfl⟩ := List.mem_map.mp member
  exact fun newline =>
    Text.newline_not_mem_of_mem_pieces part (Text.mem_of_mem_dropReturn newline)

end Script

namespace Line

/-- What a line says, by the marker with which it begins. -/
inductive Means : List Char → Line → Prop
  | blank : Means [] .blank
  | input (text : List Char) : Means ("> ".toList ++ text) (.input text)
  | errorMark (ignored : List Char) : Means ("<e".toList ++ ignored) .errorMark
  | comment (text : List Char) : Means ("#".toList ++ text) (.comment (Text.trim text))
  | argument (text : List Char) : Means ("$$ ".toList ++ text) (.argument text)
  | reserved (directive : Directive) (ignored : List Char)
    : Means (directive.text.toList ++ ignored) (.reserved directive)
  | output {text : List Char} (plain : Script.isOutput text = true) : Means text (.output text)

/-- A line is taken for what its marker says. -/
theorem means_ofText (text : List Char)
    : Means text (ofText text) := by
  unfold ofText
  split
  · exact .blank
  · exact .input _
  · exact .errorMark _
  · exact .comment _
  · exact .argument _
  · exact .reserved .r _
  · exact .reserved .l _
  · next blank input errorMark comment argument reservedR reservedL =>
      refine .output (Script.isOutput_iff.mpr ⟨blank, ?_⟩)
      simpa [Script.markers] using
        ⟨input, errorMark, comment, argument, reservedR, reservedL⟩

/-- Only one thing is said by a line, so a line is taken for anything that it says. -/
theorem Means.ofText_eq {text : List Char} {line : Line} (means : Means text line)
    : ofText text = line := by
  cases means with
  | blank | input | errorMark | comment | argument => rfl
  | reserved directive _ => cases directive <;> rfl
  | output plain =>
      obtain ⟨filled, unmarked⟩ := Script.isOutput_iff.mp plain
      unfold ofText
      split
      · exact absurd rfl filled
      · exact absurd rfl (unmarked "> " (by decide) _)
      · exact absurd rfl (unmarked "<e" (by decide) _)
      · exact absurd rfl (unmarked "#" (by decide) _)
      · exact absurd rfl (unmarked "$$ " (by decide) _)
      · exact absurd rfl (unmarked "<r" (by decide) _)
      · exact absurd rfl (unmarked "<l" (by decide) _)
      · rfl

end Line

end Dialogue
