import Dialogue.Peer.Canned
import Dialogue.Proofs.Play.Justification
import Dialogue.Proofs.Text.Showing

/-!
The texts in a verdict. Output is judged as octets and shown as characters, which may hide what the
octets were; still a mismatch never shows a text that begins with the expected one, and a text that
did not come in time is shown as the characters of it that did come.
-/

namespace Dialogue

/-- What the texts in a verdict say of what had come for a step that was begun in a session and made
these calls.
-/
inductive Faithful (step : Step) (begun : Session) (calls : List Call) : Verdict → Prop
  | mismatch {number : Nat} {stream : Stream} {expected actual : String}
    (expects : step.expectation = some ⟨stream, some expected⟩)
    (shown : actual = Text.shown (begun.come stream calls))
    (differs : Text.replacement ∉ expected.toList → ¬ expected.toList <+: actual.toList)
    : Faithful step begun calls (.mismatch number stream expected actual)
  | timeout {number : Nat} {stream : Stream} {expected received : String}
    (expects : step.expectation = some ⟨stream, some expected⟩)
    (shown
      : Text.ShownBeginning expected.toList (begun.come stream calls) received.toList)
    : Faithful step begun calls (.timeout number stream expected received)
  | outputTimeout {number : Nat} {stream : Stream}
    (expects : step.expectation = some ⟨stream, none⟩)
    : Faithful step begun calls (.timeout number stream "" "")
  | noOutput (number : Nat) (stream : Stream)
    : Faithful step begun calls (.noOutput number stream)
  | broken (number : Nat) (cause : String) : Faithful step begun calls (.broken number cause)

/-- What is shown for octets that do not begin with the form of a text does not begin with the text,
if that has no replacement characters.
-/
theorem Text.not_prefix_shown {text : String} {octets : Octets}
    (unmet : ¬ Text.octets text <+: octets) (legible : replacement ∉ text.toList)
    : ¬ text.toList <+: (shown octets).toList := by
  rw [shown, String.toList_ofList, prefix_decodeLossy_iff legible]
  exact unmet

/-- A verdict that is justified shows what had come, by cases on what justifies it. -/
theorem Justified.faithful {limit : Option Duration} {number : Nat} {step : Step}
    {begun : Session} {calls : List Call} {verdict : Verdict}
    (justified : Justified limit number step begun calls verdict)
    : Faithful step begun calls verdict := by
  cases justified with
  | mismatch expects unmet _ =>
      exact .mismatch expects rfl (Text.not_prefix_shown unmet)
  | timeout expects begins _ _ =>
      refine .timeout expects ?_
      rw [Text.shown, String.toList_ofList]
      exact Text.shownBeginning_decodeLossy begins
  | outputTimeout expects _ _ => exact .outputTimeout expects
  | noOutput _ _ _ => exact .noOutput _ _
  | unsent _ _ => exact .broken _ _
  | unread _ _ _ _ => exact .broken _ _

variable {σ : Type} [Peer σ]

/-- What the texts in the verdict of a play say, if it neither passed nor broke: they are those of a
step at which it ended, with all steps before satisfied and the calls made since.
-/
inductive PlayFaithful (limit : Option Duration) (steps : List Step) (x : Exchange σ)
    : Verdict → Prop
  | passed (code : Option Int) : PlayFaithful limit steps x (.passed code)
  | broken (number : Nat) (cause : String) : PlayFaithful limit steps x (.broken number cause)
  | atStep {before rest : List Step} {step : Step} {calls : List Call} {verdict : Verdict}
    (split : steps = before ++ step :: rest)
    (satisfied : (x.takeSteps limit 1 before).verdict = none)
    (made : playCalls limit steps x = x.stepsCalls limit 1 before ++ calls)
    (faithful : Faithful step (x.takeSteps limit 1 before).exchange.session calls verdict)
    : PlayFaithful limit steps x verdict

/-- Whatever comes, in whatever chunks and whether or not it is text, the texts in the verdict of a
play are faithful: what differs from an expected text without replacement characters is shown to
differ, and what came of a text before its time was up is shown as whole characters of it, with one
replacement character behind them just if the next one came in part.
-/
theorem play_reports_faithfully (limit : Option Duration) (scenario : Scenario) (x : Exchange σ)
    : PlayFaithful limit scenario.steps x (play limit scenario x).1 := by
  unfold play
  cases came : (x.takeSteps limit 1 scenario.steps).verdict with
  | some verdict =>
      rw [playSteps_of_stopped came]
      cases Exchange.playJustified_of_stopped came with
      | atStep split satisfied made justified =>
          exact .atStep split satisfied made justified.faithful
      | atWait => exact .broken _ _
  | none =>
      cases closes : Step.closesLast scenario.steps with
      | false =>
          rw [playSteps_of_open came closes]
          exact .passed _
      | true =>
          have closed := ((x.takeSteps limit 1 scenario.steps).exchange.closeCalls_closed limit
            scenario.steps.length).2
          rw [playSteps_of_closed came closes]
          dsimp only
          rcases closed.answered with passed | ⟨error, -, refused⟩
          · rw [passed]
            exact .passed _
          · rw [refused]
            exact .broken _ _

/-- A character that has come in part is shown as one replacement character; and the condition of a
mismatch is needed, since an expected replacement character looks like octets that are no text.
-/
example
    : let cut : Canned := { stdout := [.chunk [0x6e, 0xc3], .silence none] }
      let illFormed : Canned := { stdout := [.chunk [0xff, 0x0a]] }
      (play none { name := "cut", steps := [{ output := some "né\n" }] } ⟨{}, cut⟩).1
          = .timeout 1 .stdout "né\n" "n\uFFFD"
        ∧ (play none { name := "alike", steps := [{ output := some "\uFFFD\n" }] }
            ⟨{}, illFormed⟩).1
          = .mismatch 1 .stdout "\uFFFD\n" "\uFFFD\n" := by
  decide +kernel

end Dialogue
