import Dialogue.Proofs.Play.Record

/-!
Every verdict that is no pass is justified by what happened: by the step at which the play ended,
before which every step was satisfied, and by what had come on its stream until then.
-/

namespace Dialogue

/-- What had come on a stream by the end of these calls, with what was pending before them. -/
def Session.come (session : Session) (stream : Stream) (calls : List Call) : Octets :=
  session.pending stream ++ received stream calls

/-- What justifies the verdict of a step that was begun in a session and made these calls.
A mismatch is there as soon as what has come differs, or when the stream ends before it suffices;
all else ends a step only while what has come could still become what is expected.
-/
inductive Justified (limit : Option Duration) (number : Nat) (step : Step) (begun : Session)
    (calls : List Call) : Verdict → Prop
  | mismatch {stream : Stream} {expected : String}
    (expects : step.expectation = some ⟨stream, some expected⟩)
    (unmet : ¬ Text.octets expected <+: begun.come stream calls)
    (decided
      : ¬ begun.come stream calls <+: Text.octets expected
        ∨ calls.getLast? = some (.receive stream limit .ended))
    : Justified limit number step begun calls
        (.mismatch number stream expected (Text.shown (begun.come stream calls)))
  | timeout {stream : Stream} {expected : String} {waited : Duration}
    (expects : step.expectation = some ⟨stream, some expected⟩)
    (begins : begun.come stream calls <+: Text.octets expected)
    (proper : begun.come stream calls ≠ Text.octets expected)
    (last : calls.getLast? = some (.receive stream limit (.failed (.silence waited))))
    : Justified limit number step begun calls
        (.timeout number stream expected (Text.shown (begun.come stream calls)))
  | outputTimeout {stream : Stream} {waited : Duration}
    (expects : step.expectation = some ⟨stream, none⟩)
    (nothing : begun.come stream calls = [])
    (last : calls.getLast? = some (.receive stream limit (.failed (.silence waited))))
    : Justified limit number step begun calls (.timeout number stream "" "")
  | noOutput {stream : Stream} (expects : step.expectation = some ⟨stream, none⟩)
    (nothing : begun.come stream calls = [])
    (last : calls.getLast? = some (.receive stream limit .ended))
    : Justified limit number step begun calls (.noOutput number stream)
  | unsent {text : String} {error : PeerError} (input : step.input = some text)
    (made : calls = [.send text (.error error)])
    : Justified limit number step begun calls (.broken number error.message)
  | unread {stream : Stream} {text : Option String} {error : PeerError}
    (expects : step.expectation = some ⟨stream, text⟩)
    (short
      : text.elim (begun.come stream calls = []) fun expected =>
          begun.come stream calls <+: Text.octets expected
            ∧ begun.come stream calls ≠ Text.octets expected)
    (loud : ∀ waited, error ≠ .silence waited)
    (last : calls.getLast? = some (.receive stream limit (.failed error)))
    : Justified limit number step begun calls (.broken number error.message)

/-- Undecided octets are not what is wanted: they would be all of it. -/
theorem Undecided.ne {wanted pending : Octets} (undecided : Undecided wanted pending)
    : pending ≠ wanted := by
  intro same
  exact undecided.unmet (same ▸ List.prefix_refl pending)

/-- Reads of a stream put what their answers bring behind what had come. -/
theorem Session.come_reads (session : Session) (stream : Stream) (calls : List Call)
    (limit : Option Duration) (answers : List Reception)
    : session.come stream (calls ++ Call.reads stream limit answers)
      = session.come stream calls ++ gathered answers := by
  rw [come, come, received_append, received_reads, List.append_assoc]

/-- A verdict on a text is justified. The calls made before the wait brought what was pending when
it began. Witness: induction on the reads; each chunk joins the calls before the rest of the wait.
-/
theorem TextAwaited.justified {limit : Option Duration} {number : Nat} {step : Step}
    {stream : Stream} {expected : String} {begun session final : Session}
    {answers : List Reception} {verdict : Option Verdict} {came : Verdict}
    (awaited : TextAwaited number stream expected session answers final verdict)
    (expects : step.expectation = some ⟨stream, some expected⟩) (stopped : verdict = some came)
    (earlier : List Call) (found : begun.come stream earlier = session.pending stream)
    : Justified limit number step begun (earlier ++ Call.reads stream limit answers) came := by
  induction awaited generalizing earlier with
  | met _ => cases stopped
  | @apart session unmet differs =>
      cases stopped
      have come : begun.come stream (earlier ++ Call.reads stream limit [])
          = session.pending stream := by
        simp [Session.come_reads, found]
      rw [← come] at unmet differs ⊢
      exact .mismatch expects unmet (.inl differs)
  | @chunk session _ octets _ _ _ _ ih =>
      have next : begun.come stream (earlier ++ Call.reads stream limit [.chunk octets])
          = (session.append stream octets).pending stream := by
        simp [Session.come_reads, found]
      have rest := ih stopped _ next
      rw [List.append_assoc] at rest
      exact rest
  | @ended session undecided =>
      cases stopped
      have come : begun.come stream (earlier ++ Call.reads stream limit [.ended])
          = session.pending stream := by
        simp [Session.come_reads, found]
      rw [← come] at undecided ⊢
      exact .mismatch expects undecided.unmet (.inr List.getLast?_concat)
  | @silent session waited undecided =>
      cases stopped
      have come
          : begun.come stream (earlier ++ Call.reads stream limit [.failed (.silence waited)])
            = session.pending stream := by
        simp [Session.come_reads, found]
      rw [← come] at undecided ⊢
      exact .timeout expects undecided.begins undecided.ne List.getLast?_concat
  | @failed session error undecided loud =>
      cases stopped
      have come : begun.come stream (earlier ++ Call.reads stream limit [.failed error])
          = session.pending stream := by
        simp [Session.come_reads, found]
      rw [← come] at undecided
      exact .unread expects ⟨undecided.begins, undecided.ne⟩ loud List.getLast?_concat

/-- A verdict on any output is justified, by cases on the rules. -/
theorem OutputAwaited.justified {limit : Option Duration} {number : Nat} {step : Step}
    {stream : Stream} {begun session final : Session} {answers : List Reception}
    {verdict : Option Verdict} {came : Verdict}
    (awaited : OutputAwaited number stream session answers final verdict)
    (expects : step.expectation = some ⟨stream, none⟩) (stopped : verdict = some came)
    (earlier : List Call) (found : begun.come stream earlier = session.pending stream)
    : Justified limit number step begun (earlier ++ Call.reads stream limit answers) came := by
  cases awaited with
  | pending _ => cases stopped
  | chunk _ => cases stopped
  | ended empty =>
      cases stopped
      exact .noOutput expects (by simp [Session.come_reads, found, empty]) List.getLast?_concat
  | silent empty =>
      cases stopped
      exact .outputTimeout expects (by simp [Session.come_reads, found, empty])
        List.getLast?_concat
  | failed empty loud =>
      cases stopped
      exact .unread expects (by simp [Session.come_reads, found, empty]) loud
        List.getLast?_concat

/-- A verdict on an expectation is justified, by cases on the expectation. -/
theorem ExpectationAwaited.justified {limit : Option Duration} {number : Nat} {step : Step}
    {begun session final : Session} {calls : List Call} {came : Verdict}
    (awaited : ExpectationAwaited limit number session step.expectation calls final (some came))
    (earlier : List Call)
    (found : ∀ stream, begun.come stream earlier = session.pending stream)
    : Justified limit number step begun (earlier ++ calls) came := by
  generalize expects : step.expectation = expectation at awaited
  cases awaited with
  | text awaited => exact awaited.justified expects rfl earlier (found _)
  | output awaited => exact awaited.justified expects rfl earlier (found _)

/-- A verdict of a step is justified, by cases on whether an input was sent before. -/
theorem StepTaken.justified {limit : Option Duration} {number : Nat} {step : Step}
    {session final : Session} {calls : List Call} {came : Verdict}
    (taken : StepTaken limit number step session calls final (some came))
    : Justified limit number step session calls came := by
  cases taken with
  | quiet _ awaited => exact awaited.justified [] (by simp [Session.come])
  | @sent text _ _ _ _ awaited =>
      exact awaited.justified [.send text (.ok ())] (by simp [Session.come])
  | refused input => exact .unsent input rfl

-----------------------------------------------------------------------------------------
-- The verdict of a play
-----------------------------------------------------------------------------------------

variable {σ : Type} [Peer σ]

/-- What justifies the verdict of a play: a step at which it ended, with all steps before satisfied
and the calls made since; or a wait that failed after the last step, with all steps satisfied.
-/
inductive PlayJustified (limit : Option Duration) (steps : List Step) (x : Exchange σ)
    : Verdict → Prop
  | atStep {before rest : List Step} {step : Step} {calls : List Call} {verdict : Verdict}
    (split : steps = before ++ step :: rest)
    (satisfied : (x.takeSteps limit 1 before).verdict = none)
    (made : playCalls limit steps x = x.stepsCalls limit 1 before ++ calls)
    (justified : Justified limit (before.length + 1) step
      (x.takeSteps limit 1 before).exchange.session calls verdict)
    : PlayJustified limit steps x verdict
  | atWait {before : List Step} {step : Step} {error : PeerError}
    (split : steps = before ++ [step]) (closes : step.closes = true)
    (satisfied : (x.takeSteps limit 1 steps).verdict = none)
    (made : playCalls limit steps x = x.stepsCalls limit 1 steps ++ [.wait (.error error)])
    : PlayJustified limit steps x (.broken steps.length error.message)

/-- A verdict to which steps come is justified, by the rules for the step at which they stop. -/
theorem Exchange.playJustified_of_stopped {limit : Option Duration} {steps : List Step}
    {x : Exchange σ} {verdict : Verdict}
    (came : (x.takeSteps limit 1 steps).verdict = some verdict)
    : PlayJustified limit steps x verdict := by
  obtain ⟨before, step, rest, split, satisfied, stopped, made⟩ := playCalls_stopped_at came
  have taken := (stepCalls_taken limit (before.length + 1) step
    (x.takeSteps limit 1 before).exchange).2
  rw [stopped] at taken
  exact .atStep split satisfied made taken.justified

/-- The end of a play gives no verdict unless the wait fails, by cases on the rules. -/
theorem Closed.answered {limit : Option Duration} {number : Nat} {session final : Session}
    {calls : List Call} {verdict : Option Verdict}
    (closed : Closed limit number session calls final verdict)
    : verdict = none
        ∨ ∃ error : PeerError,
            calls = [.wait (.error error)]
              ∧ verdict = some (.broken number error.message) := by
  cases closed with
  | refused => exact .inr ⟨_, rfl, rfl⟩
  | gathered _ _ => exact .inl rfl

/-- A play passes, or its verdict is justified by what happened. Witness: the step at which the
steps stop, or the answer to the wait after them.
-/
theorem play_passed_or_justified (limit : Option Duration) (scenario : Scenario)
    (x : Exchange σ)
    : (∃ code, (play limit scenario x).1 = .passed code)
        ∨ PlayJustified limit scenario.steps x (play limit scenario x).1 := by
  unfold play
  cases came : (x.takeSteps limit 1 scenario.steps).verdict with
  | some verdict =>
      rw [playSteps_of_stopped came]
      exact .inr (Exchange.playJustified_of_stopped came)
  | none =>
      cases closes : Step.closesLast scenario.steps with
      | false =>
          rw [playSteps_of_open came closes]
          exact .inl ⟨_, rfl⟩
      | true =>
          obtain ⟨before, step, split, last⟩ := Step.split_of_closesLast closes
          have closed := ((x.takeSteps limit 1 scenario.steps).exchange.closeCalls_closed limit
            scenario.steps.length).2
          have made := playCalls_of_closed came closes
          rw [playSteps_of_closed came closes]
          rcases closed.answered with passed | ⟨error, calls, refused⟩
          · dsimp only
            rw [passed]
            exact .inl ⟨_, rfl⟩
          · dsimp only
            rw [refused]
            rw [calls] at made
            exact .inr (.atWait split last came made)

end Dialogue
