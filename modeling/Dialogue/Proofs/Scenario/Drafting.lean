import Dialogue.Proofs.Scenario.Lines
import Mathlib.Data.List.ModifyLast

/-!
How a draft grows. A line changes the steps of a draft, adds an argument to it, or is refused; so
reading succeeds where no line is refused, and gives the steps to which the lines lead one after
the other.
-/

namespace Dialogue

namespace Line

/-- The steps of a draft, the latest first, once a line was taken up. -/
def addTo (steps : List Step) : Line → List Step
  | .input text => Draft.addInput text steps
  | .errorMark => Draft.addErrorMark steps
  | .comment text => .ofComment (String.ofList text) :: steps
  | .output text => Draft.addOutput text steps
  | .blank | .argument _ | .reserved _ => steps

/-- The argument that a line adds, if it adds one. -/
def argument? : Line → Option String
  | .argument text => some (String.ofList text)
  | _ => none

end Line

namespace Step

/-- A step that closes. -/
def closing (step : Step) : Step :=
  { step with closes := true }

/-- What does not see whether a step closes is the same once the last step was made to close. -/
theorem map_modifyLast {α : Type} (view : Step → α)
    (closing : ∀ step : Step, view step.closing = view step) (steps : List Step)
    : (steps.modifyLast Step.closing).map view = steps.map view := by
  rcases List.eq_nil_or_concat' steps with rfl | ⟨before, last, rfl⟩
  · rfl
  · rw [List.modifyLast_concat, List.map_append, List.map_append, List.map_singleton, closing,
      List.map_singleton]

/-- Closing the last step changes no other. -/
theorem forall_mem_modifyLast {P : Step → Prop} {steps : List Step}
    (each : ∀ step ∈ steps, P step) (closing : ∀ step, P step → P step.closing)
    : ∀ step ∈ steps.modifyLast Step.closing, P step := by
  rcases List.eq_nil_or_concat' steps with rfl | ⟨before, last, rfl⟩
  · exact each
  · rw [List.modifyLast_concat]
    rw [List.forall_mem_append, List.forall_mem_singleton] at each ⊢
    exact ⟨each.1, closing last each.2⟩

/-- A relation between steps that does not see whether the later one closes holds as well once the
last step was made to close.
-/
theorem pairwise_modifyLast {R : Step → Step → Prop} {steps : List Step}
    (related : steps.Pairwise R)
    (closing : ∀ step last, R step last → R step last.closing)
    : (steps.modifyLast Step.closing).Pairwise R := by
  rcases List.eq_nil_or_concat' steps with rfl | ⟨before, last, rfl⟩
  · exact related
  · rw [List.modifyLast_concat]
    rw [List.pairwise_append] at related ⊢
    refine ⟨related.1, List.pairwise_singleton _ _, ?_⟩
    intro step member other isLast
    rw [List.mem_singleton.mp isLast]
    exact closing step last (related.2.2 step member last List.mem_cons_self)

end Step

namespace Draft

/-- A draft takes up every line that is not reserved. -/
theorem add_eq_ok {line : Line} (unreserved : ∀ directive, line ≠ .reserved directive)
    (draft : Draft)
    : draft.add line
      = .ok ⟨line.addTo draft.steps, line.argument?.toList ++ draft.arguments⟩ := by
  cases line with
  | reserved directive => exact absurd rfl (unreserved directive)
  | blank | input | errorMark | comment | argument | output => rfl

/-- A draft takes up lines exactly if none of them is reserved, by induction on them. -/
theorem addAll_eq_ok_iff {draft next : Draft} {number : Nat} {lines : List Line}
    : draft.addAll number lines = .ok next
      ↔ (∀ directive, .reserved directive ∉ lines)
        ∧ next
          = ⟨lines.foldl Line.addTo draft.steps,
              (lines.filterMap Line.argument?).reverse ++ draft.arguments⟩ := by
  induction lines generalizing draft number with
  | nil => simp [addAll, eq_comm]
  | cons line lines ih =>
      by_cases unreserved : ∀ directive, line ≠ .reserved directive
      · have arguments
            : (lines.filterMap Line.argument?).reverse
                ++ (line.argument?.toList ++ draft.arguments)
              = ((line :: lines).filterMap Line.argument?).reverse ++ draft.arguments := by
          rw [List.filterMap_cons]
          cases line.argument? <;> simp
        have apart : ∀ directive, .reserved directive ≠ line :=
          fun directive => Ne.symm (unreserved directive)
        simp only [addAll, add_eq_ok unreserved, ih, arguments, List.foldl_cons,
          List.mem_cons, not_or, apart, not_false_eq_true, true_and]
      · obtain ⟨directive, rfl⟩ := not_forall_not.mp unreserved
        refine iff_of_false (fun accepted => by simp [addAll, add] at accepted) ?_
        exact fun ⟨absent, _⟩ => absent directive List.mem_cons_self

/-- Closing the latest step closes the last one in the order of the scenario. -/
theorem reverse_closeLatest (steps : List Step)
    : (closeLatest steps).reverse = steps.reverse.modifyLast Step.closing := by
  cases steps with
  | nil => rfl
  | cons latest earlier =>
      rw [closeLatest, List.reverse_cons, List.reverse_cons, List.modifyLast_concat]
      rfl

/-- The steps of a finished scenario: those of the draft in order, without comments that no step
took up, the last of them closing.
-/
def finished (steps : List Step) : List Step :=
  (steps.reverse.filter fun step => !step.isBareComment).modifyLast Step.closing

/-- Finishing a draft keeps its arguments in order. -/
theorem finish_eq (name : String) (steps : List Step) (arguments : List String)
    : finish name ⟨steps, arguments⟩
      = { name, arguments := arguments.reverse, steps := finished steps } := by
  rw [finish, finished, reverse_closeLatest, List.filter_reverse]

end Draft

/-- A scenario is read exactly if no line of its text is reserved, and then has the arguments of
the lines and the steps to which they lead.
-/
theorem Scenario.read_eq_ok_iff {name text : String} {scenario : Scenario}
    : read name text = .ok scenario
      ↔ (∀ directive, .reserved directive ∉ linesOf text.toList)
        ∧ scenario
          = { name
              arguments := (linesOf text.toList).filterMap Line.argument?
              steps := Draft.finished ((linesOf text.toList).foldl Line.addTo []) } := by
  have drafted
      : read name text = .ok scenario
        ↔ ∃ draft, Draft.addAll {} 1 (linesOf text.toList) = .ok draft
            ∧ Draft.finish name draft = scenario := by
    unfold read
    cases Draft.addAll {} 1 (linesOf text.toList) <;> simp [Except.map]
  rw [drafted]
  constructor
  · rintro ⟨draft, taken, rfl⟩
    obtain ⟨unreserved, rfl⟩ := Draft.addAll_eq_ok_iff.mp taken
    rw [Draft.finish_eq, List.append_nil, List.reverse_reverse]
    exact ⟨unreserved, rfl⟩
  · rintro ⟨unreserved, rfl⟩
    refine ⟨_, Draft.addAll_eq_ok_iff.mpr ⟨unreserved, rfl⟩, ?_⟩
    rw [Draft.finish_eq, List.append_nil, List.reverse_reverse]

end Dialogue
