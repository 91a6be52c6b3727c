import Dialogue.Proofs.Scenario.Drafting

/-!
Well-formed scenarios. They are what a scenario that was read can be: its texts are such as lines
hold, every step acts, only the first may begin without a comment and an input, and the last step
alone closes.
-/

namespace Dialogue

-----------------------------------------------------------------------------------------
-- What lines, steps and scenarios hold
-----------------------------------------------------------------------------------------

/-- The text of a line is one that the line can hold. -/
def Line.Legible : Line → Prop
  | .input text | .argument text => '\n' ∉ text
  | .comment text => '\n' ∉ text ∧ Text.trim text = text
  | .output text => '\n' ∉ text ∧ Script.isOutput text = true
  | .blank | .errorMark | .reserved _ => True

namespace Step

/-- The texts of a step are such as lines hold. -/
structure Legible (step : Step) : Prop where
  comment
    : ∀ text ∈ step.comment, '\n' ∉ text.toList ∧ Text.trim text.toList = text.toList
  input : ∀ text ∈ step.input, ∃ line, '\n' ∉ line ∧ text = Draft.withNewline line
  output
    : ∀ text ∈ step.output,
        ∃ lines,
          lines ≠ []
            ∧ (∀ line ∈ lines, '\n' ∉ line ∧ Script.isOutput line = true)
            ∧ text = Script.ended lines

/-- A step begins with a comment or an input. -/
def Opens (step : Step) : Prop :=
  step.comment ≠ none ∨ step.input ≠ none

/-- A step has legible texts, and sends or expects something. -/
structure WellFormed (step : Step) : Prop extends step.Legible where
  acts : step.input ≠ none ∨ step.output ≠ none ∨ step.onStderr = true

end Step

/-- The steps of a scenario are well formed, each but the first opens, and the last one alone
closes; its arguments are without newlines.
-/
structure Scenario.WellFormed (scenario : Scenario) : Prop where
  arguments : ∀ argument ∈ scenario.arguments, '\n' ∉ argument.toList
  steps : ∀ step ∈ scenario.steps, step.WellFormed
  opens : scenario.steps.Pairwise fun _ step => step.Opens
  closesLast : ∀ step ∈ scenario.steps.getLast?, step.closes = true
  closesOnce : scenario.steps.Pairwise fun step _ => step.closes = false

/-- What a line without a newline means has a text that the line can hold. -/
theorem Line.Means.legible {text : List Char} {line : Line} (means : Means text line)
    (single : '\n' ∉ text)
    : line.Legible := by
  cases means with
  | blank | errorMark | reserved => trivial
  | input text | argument text =>
      exact fun newline => single (List.mem_append_right _ newline)
  | comment text =>
      refine ⟨?_, Text.trim_trim text⟩
      exact fun newline => single (List.mem_append_right _ (Text.mem_of_mem_trim newline))
  | output plain => exact ⟨single, plain⟩

/-- The lines that a scenario is read from are legible. -/
theorem Scenario.legible_of_mem_linesOf {text : String} {line : Line}
    (member : line ∈ linesOf text.toList)
    : line.Legible := by
  rw [Script.linesOf_eq] at member
  obtain ⟨written, part, rfl⟩ := List.mem_map.mp member
  exact (Line.means_ofText written).legible (Script.newline_not_mem part)

-----------------------------------------------------------------------------------------
-- Drafts
-----------------------------------------------------------------------------------------

namespace Step

/-- An empty step has no text that a line could not hold. -/
theorem legible_empty
    : Legible {} where
  comment := fun _ absent => by cases absent
  input := fun _ absent => by cases absent
  output := fun _ absent => by cases absent

/-- An input line may be the input of a step. -/
theorem Legible.withInput {step : Step} (legible : step.Legible) {line : List Char}
    (single : '\n' ∉ line)
    : Legible { step with input := some (Draft.withNewline line) } where
  comment := legible.comment
  input := by
    rintro _ ⟨⟩
    exact ⟨line, single, rfl⟩
  output := legible.output

/-- An output line may come behind the output of a step: its text stays one of lines. -/
theorem Legible.withOutput {step : Step} (legible : step.Legible) {line : List Char}
    (single : '\n' ∉ line) (plain : Script.isOutput line = true)
    : Legible
        { step with output := some (step.output.getD "" ++ Draft.withNewline line) } where
  comment := legible.comment
  input := legible.input
  output := by
    have last : ∀ other ∈ [line], '\n' ∉ other ∧ Script.isOutput other = true :=
      List.forall_mem_singleton.mpr ⟨single, plain⟩
    rintro _ ⟨⟩
    cases before : step.output with
    | none =>
        refine ⟨[line], List.cons_ne_nil _ _, last, ?_⟩
        rw [Option.getD_none, Script.ended_singleton, String.empty_append]
    | some text =>
        obtain ⟨lines, -, first, rfl⟩ := legible.output text before
        refine ⟨lines ++ [line], by simp, List.forall_mem_append.mpr ⟨first, last⟩, ?_⟩
        rw [Option.getD_some, Script.ended_append, Script.ended_singleton]

end Step

/-- A step as it stands in a draft: it does not close yet, and there is something in it. -/
structure Step.Drafted (step : Step) : Prop extends step.Legible where
  filled : step.Opens ∨ step.output ≠ none ∨ step.onStderr = true
  unclosed : step.closes = false

/-- A drafted step that is more than a comment acts. -/
theorem Step.Drafted.wellFormed {step : Step} (drafted : step.Drafted)
    (more : step.isBareComment = false)
    : step.WellFormed where
  toLegible := drafted.toLegible
  acts := by
    rcases drafted.filled with (comment | input) | answer
    · by_contra idle
      simp only [not_or, not_not, Bool.not_eq_true] at idle
      simp [isBareComment, Option.isSome_iff_ne_none.mpr comment, idle, drafted.unclosed] at more
    · exact .inl input
    · exact .inr answer

namespace Draft

/-- The steps of a draft, the latest first, as lines lead to them. -/
structure Sound (steps : List Step) : Prop where
  drafted : ∀ step ∈ steps, step.Drafted
  opens : steps.Pairwise fun step _ => step.Opens

/-- Steps are sound if the latest is drafted and opens where others are before it. -/
theorem sound_cons {latest : Step} {earlier : List Step}
    : Sound (latest :: earlier)
      ↔ latest.Drafted ∧ (earlier ≠ [] → latest.Opens) ∧ Sound earlier := by
  constructor
  · rintro ⟨drafted, opens⟩
    rw [List.pairwise_cons] at opens
    refine ⟨drafted _ List.mem_cons_self, ?_, ?_⟩
    · intro others
      obtain ⟨step, member⟩ := List.exists_mem_of_ne_nil _ others
      exact opens.1 step member
    · exact ⟨fun step member => drafted step (List.mem_cons_of_mem _ member), opens.2⟩
  · rintro ⟨drafted, opens, sound⟩
    refine ⟨List.forall_mem_cons.mpr ⟨drafted, sound.drafted⟩, ?_⟩
    refine List.pairwise_cons.mpr ⟨?_, sound.opens⟩
    exact fun step member => opens (List.ne_nil_of_mem member)

/-- An input line keeps a draft sound. -/
theorem Sound.addInput {steps : List Step} (sound : Sound steps) {line : List Char}
    (single : '\n' ∉ line)
    : Sound (addInput line steps) := by
  have opened : (Step.ofInput (withNewline line)).Drafted := {
    Step.legible_empty.withInput single with
    filled := .inl (.inr (by simp [Step.ofInput]))
    unclosed := rfl
  }
  cases steps with
  | nil => exact sound_cons.mpr ⟨opened, fun others => absurd rfl others, sound⟩
  | cons latest earlier =>
      obtain ⟨drafted, -, rest⟩ := sound_cons.mp sound
      rw [Draft.addInput]
      split
      · refine sound_cons.mpr ⟨?_, fun _ => .inr (by simp), rest⟩
        exact {
          drafted.withInput single with
          filled := .inl (.inr (by simp))
          unclosed := drafted.unclosed
        }
      · exact sound_cons.mpr ⟨opened, fun _ => .inr (by simp [Step.ofInput]), sound⟩

/-- An error mark keeps a draft sound. -/
theorem Sound.addErrorMark {steps : List Step} (sound : Sound steps)
    : Sound (addErrorMark steps) := by
  cases steps with
  | nil =>
      refine sound_cons.mpr ⟨?_, fun others => absurd rfl others, sound⟩
      exact { Step.legible_empty with filled := .inr (.inr rfl), unclosed := rfl }
  | cons latest earlier =>
      obtain ⟨drafted, opens, rest⟩ := sound_cons.mp sound
      refine sound_cons.mpr ⟨?_, opens, rest⟩
      exact { drafted with filled := .inr (.inr rfl) }

/-- At the start of a draft an output line opens a step as if it joined an empty one. -/
theorem addOutput_nil (line : List Char)
    : addOutput line [] = addOutput line [{}] := by
  rw [addOutput, addOutput, Option.getD_none, String.empty_append]
  rfl

/-- An output line keeps a draft sound. -/
theorem Sound.addOutput {steps : List Step} (sound : Sound steps) {line : List Char}
    (single : '\n' ∉ line) (plain : Script.isOutput line = true)
    : Sound (addOutput line steps) := by
  cases steps with
  | nil =>
      rw [addOutput_nil]
      refine sound_cons.mpr ⟨?_, fun others => absurd rfl others, sound⟩
      exact {
        Step.legible_empty.withOutput single plain with
        filled := .inr (.inl (by simp))
        unclosed := rfl
      }
  | cons latest earlier =>
      obtain ⟨drafted, opens, rest⟩ := sound_cons.mp sound
      refine sound_cons.mpr ⟨?_, opens, rest⟩
      exact {
        drafted.withOutput single plain with
        filled := .inr (.inl (by simp))
        unclosed := drafted.unclosed
      }

/-- A comment line keeps a draft sound. -/
theorem Sound.addComment {steps : List Step} (sound : Sound steps) {text : List Char}
    (single : '\n' ∉ text) (trimmed : Text.trim text = text)
    : Sound (.ofComment (String.ofList text) :: steps) := by
  refine sound_cons.mpr ⟨?_, fun _ => .inl (by simp [Step.ofComment]), sound⟩
  exact {
    Step.legible_empty with
    comment := by
      rintro _ ⟨⟩
      rw [String.toList_ofList]
      exact ⟨single, trimmed⟩
    filled := .inl (.inl (by simp [Step.ofComment]))
    unclosed := rfl
  }

/-- A legible line keeps a draft sound. -/
theorem Sound.addTo {steps : List Step} (sound : Sound steps) {line : Line}
    (legible : line.Legible)
    : Sound (line.addTo steps) := by
  cases line with
  | blank | argument | reserved => exact sound
  | input text => exact sound.addInput legible
  | errorMark => exact sound.addErrorMark
  | comment text => exact sound.addComment legible.1 legible.2
  | output text => exact sound.addOutput legible.1 legible.2

/-- Legible lines lead from sound steps to sound steps, by induction on them. -/
theorem Sound.foldl {steps : List Step} (sound : Sound steps) {lines : List Line}
    (legible : ∀ line ∈ lines, line.Legible)
    : Sound (lines.foldl Line.addTo steps) := by
  induction lines generalizing steps with
  | nil => exact sound
  | cons line lines ih =>
      refine ih (sound.addTo (legible line List.mem_cons_self)) ?_
      exact fun other member => legible other (List.mem_cons_of_mem _ member)

end Draft

-----------------------------------------------------------------------------------------
-- What was read
-----------------------------------------------------------------------------------------

/-- A step that is made to close stays well formed. -/
theorem Step.WellFormed.closing {step : Step} (wellFormed : step.WellFormed)
    : step.closing.WellFormed :=
  { wellFormed with }

/-- Finishing sound steps gives a well-formed scenario. -/
theorem Draft.Sound.finished {steps : List Step} (sound : Sound steps) {name : String}
    {arguments : List String} (single : ∀ argument ∈ arguments, '\n' ∉ argument.toList)
    : Scenario.WellFormed { name, arguments, steps := Draft.finished steps } := by
  have kept
      : ∀ step ∈ steps.reverse.filter (fun step => !step.isBareComment),
          step.WellFormed ∧ step.closes = false := by
    intro step member
    obtain ⟨member, more⟩ := List.mem_filter.mp member
    have drafted := sound.drafted step (List.mem_reverse.mp member)
    exact ⟨drafted.wellFormed (by simpa using more), drafted.unclosed⟩
  have opens := (List.pairwise_reverse.mpr sound.opens).filter fun step => !step.isBareComment
  have unclosed
      : (steps.reverse.filter fun step => !step.isBareComment).Pairwise
          fun step _ => step.closes = false :=
    List.pairwise_of_forall_mem_list fun step member _ _ => (kept step member).2
  exact {
    arguments := single
    steps :=
      Step.forall_mem_modifyLast (fun step member => (kept step member).1)
        fun _ wellFormed => wellFormed.closing
    opens := Step.pairwise_modifyLast opens fun _ _ opens => opens
    closesLast := by
      dsimp only [Draft.finished]
      rcases List.eq_nil_or_concat' (steps.reverse.filter fun step => !step.isBareComment)
        with none | ⟨before, last, some⟩
      · rw [none]
        exact fun _ absent => by cases absent
      · rw [some, List.modifyLast_concat, List.getLast?_concat]
        rintro _ ⟨⟩
        rfl
    closesOnce := Step.pairwise_modifyLast unclosed fun _ _ unclosed => unclosed
  }

/-- A scenario that was read is well formed. -/
theorem Scenario.wellFormed_of_read {name text : String} {scenario : Scenario}
    (accepted : read name text = .ok scenario)
    : scenario.WellFormed := by
  obtain ⟨-, rfl⟩ := read_eq_ok_iff.mp accepted
  have start : Draft.Sound [] :=
    ⟨fun _ absent => absurd absent List.not_mem_nil, List.Pairwise.nil⟩
  refine (start.foldl fun line => legible_of_mem_linesOf).finished ?_
  intro argument member
  obtain ⟨line, written, added⟩ := List.mem_filterMap.mp member
  have legible := legible_of_mem_linesOf written
  cases line with
  | argument text =>
      cases added
      rw [String.toList_ofList]
      exact legible
  | blank | input | errorMark | comment | reserved | output => cases added

end Dialogue
