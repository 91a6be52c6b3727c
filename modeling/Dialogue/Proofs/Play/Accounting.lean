import Dialogue.Proofs.Play.Record

/-!
The account of the octets on each stream. What was pending and what came is, in this order, what the
satisfied steps took and what is left; a verdict leaves it pending, unless it shows it as the
mismatch. This holds with any peer, whatever it answers.
-/

namespace Dialogue

-----------------------------------------------------------------------------------------
-- What is taken, and what is left
-----------------------------------------------------------------------------------------

/-- What is taken from a stream, on which so many octets have come, when an expectation is met: its
text exactly, or everything if any output will do.
-/
def Expectation.takes (expectation : Expectation) (stream : Stream) (come : Octets) : Octets :=
  if expectation.stream = stream then
    match expectation.text with
    | some text => Text.octets text
    | none => come
  else []

/-- What a step takes when it is satisfied: what its expectation does, if it has one. -/
def Step.takes (step : Step) (stream : Stream) (come : Octets) : Octets :=
  step.expectation.elim [] (·.takes stream come)

/-- What the satisfied steps among these take from a stream, in order. -/
def Exchange.takenOn {σ : Type} [Peer σ] (limit : Option Duration) (stream : Stream)
    (number : Nat) (x : Exchange σ) : List Step → Octets
  | [] => []
  | step :: rest =>
    let turn := x.takeStep limit number step
    match turn.verdict with
    | some _ => []
    | none =>
      step.takes stream
          (x.session.pending stream ++ received stream (x.stepCalls limit number step))
        ++ turn.exchange.takenOn limit stream (number + 1) rest

/-- What is left on a stream is pending there; but after a mismatch on the stream nothing is, and
what was left is what the verdict shows.
-/
def Session.Leaves (session : Session) (stream : Stream) (left : Octets)
    (verdict : Option Verdict) : Prop :=
  match verdict with
  | some (.mismatch _ asked _ actual) =>
    if asked = stream then session.pending stream = [] ∧ actual = Text.shown left
    else session.pending stream = left
  | _ => session.pending stream = left

-----------------------------------------------------------------------------------------
-- The account of a step
-----------------------------------------------------------------------------------------

/-- What came while a text was awaited is taken or left. Witness: induction on the reads. -/
theorem TextAwaited.accounted {number : Nat} {stream : Stream} {expected : String}
    {session final : Session} {answers : List Reception} {verdict : Option Verdict}
    (awaited : TextAwaited number stream expected session answers final verdict)
    : ∃ left,
        session.pending stream ++ gathered answers
            = (if verdict = none then Text.octets expected else []) ++ left
          ∧ final.Leaves stream left verdict := by
  induction awaited with
  | met begins =>
      refine ⟨_, ?_, rfl⟩
      simpa only [gathered_nil, List.append_nil, if_true]
        using Session.pending_takeText begins
  | @apart session _ _ =>
      refine ⟨session.pending stream, by simp, ?_⟩
      simp [Session.Leaves]
  | chunk _ _ ih =>
      obtain ⟨left, account, leaves⟩ := ih
      refine ⟨left, ?_, leaves⟩
      rw [← account, Session.pending_append, List.append_assoc]
      rfl
  | @ended session _ =>
      refine ⟨session.pending stream, by simp, ?_⟩
      simp [Session.Leaves]
  | @silent session _ _ =>
      refine ⟨session.pending stream, by simp, ?_⟩
      simp [Session.Leaves]
  | @failed session _ _ _ =>
      refine ⟨session.pending stream, by simp, ?_⟩
      simp [Session.Leaves]

/-- Awaiting a text leaves the other stream alone. Witness: induction on the reads. -/
theorem TextAwaited.leaves_of_ne {number : Nat} {stream asked : Stream} {expected : String}
    {session final : Session} {answers : List Reception} {verdict : Option Verdict}
    (awaited : TextAwaited number stream expected session answers final verdict)
    (ne : asked ≠ stream)
    : final.Leaves asked (session.pending asked) verdict := by
  induction awaited with
  | met _ => exact Session.pending_takeText_of_ne ne _ _
  | apart _ _ =>
      simpa only [Session.Leaves, ne.symm, if_false]
        using Session.pending_noteMismatch_of_ne ne _ _ _
  | chunk _ _ ih => rwa [Session.pending_append_of_ne ne] at ih
  | ended _ =>
      simpa only [Session.Leaves, ne.symm, if_false]
        using Session.pending_noteMismatch_of_ne ne _ _ _
  | silent _ => exact Session.pending_note ..
  | failed _ _ => rfl

/-- What came while any output was awaited is taken or left, by cases on the rules. -/
theorem OutputAwaited.accounted {number : Nat} {stream : Stream} {session final : Session}
    {answers : List Reception} {verdict : Option Verdict}
    (awaited : OutputAwaited number stream session answers final verdict)
    : ∃ left,
        session.pending stream ++ gathered answers
            = (if verdict = none then session.pending stream ++ gathered answers else []) ++ left
          ∧ final.Leaves stream left verdict := by
  cases awaited with
  | pending _ => exact ⟨[], by simp, Session.pending_takeAll ..⟩
  | chunk _ => exact ⟨[], by simp, Session.pending_takeAll ..⟩
  | ended _ => exact ⟨session.pending stream, by simp, rfl⟩
  | silent _ => exact ⟨session.pending stream, by simp, rfl⟩
  | failed _ _ => exact ⟨session.pending stream, by simp, rfl⟩

/-- Awaiting any output leaves the other stream alone, by cases on the rules. -/
theorem OutputAwaited.leaves_of_ne {number : Nat} {stream asked : Stream}
    {session final : Session} {answers : List Reception} {verdict : Option Verdict}
    (awaited : OutputAwaited number stream session answers final verdict)
    (ne : asked ≠ stream)
    : final.Leaves asked (session.pending asked) verdict := by
  cases awaited with
  | pending _ => exact Session.pending_takeAll_of_ne ne _
  | chunk _ =>
      exact (Session.pending_takeAll_of_ne ne _).trans (Session.pending_append_of_ne ne _ _)
  | ended _ => rfl
  | silent _ => rfl
  | failed _ _ => rfl

/-- What came while an expectation was awaited is taken or left, by cases on the expectation and
on whether the stream is the one that it is about.
-/
theorem ExpectationAwaited.accounted {limit : Option Duration} {number : Nat}
    {expectation : Option Expectation} {session final : Session} {calls : List Call}
    {verdict : Option Verdict}
    (awaited : ExpectationAwaited limit number session expectation calls final verdict)
    (stream : Stream)
    : ∃ left,
        session.pending stream ++ received stream calls
            = (if verdict = none then
                expectation.elim []
                  (·.takes stream (session.pending stream ++ received stream calls))
              else [])
              ++ left
          ∧ final.Leaves stream left verdict := by
  cases awaited with
  | nothing => exact ⟨session.pending stream, by simp, rfl⟩
  | @text asked expected answers _ _ awaited =>
      by_cases same : asked = stream
      · subst same
        simpa [Expectation.takes] using awaited.accounted
      · refine ⟨session.pending stream, ?_, awaited.leaves_of_ne (Ne.symm same)⟩
        simp [received_reads_of_ne same, Expectation.takes, same]
  | @output asked answers _ _ awaited =>
      by_cases same : asked = stream
      · subst same
        simpa [Expectation.takes] using awaited.accounted
      · refine ⟨session.pending stream, ?_, awaited.leaves_of_ne (Ne.symm same)⟩
        simp [received_reads_of_ne same, Expectation.takes, same]

/-- What came while a step was taken is taken or left, by cases on the rules. -/
theorem StepTaken.accounted {limit : Option Duration} {number : Nat} {step : Step}
    {session final : Session} {calls : List Call} {verdict : Option Verdict}
    (taken : StepTaken limit number step session calls final verdict) (stream : Stream)
    : ∃ left,
        session.pending stream ++ received stream calls
            = (if verdict = none then
                step.takes stream (session.pending stream ++ received stream calls)
              else [])
              ++ left
          ∧ final.Leaves stream left verdict := by
  cases taken with
  | quiet _ awaited =>
      simpa only [Session.pending_noteComment, Step.takes] using awaited.accounted stream
  | sent _ awaited =>
      simpa only [Session.pending_noteSent, Session.pending_noteComment, received_send,
        Step.takes] using awaited.accounted stream
  | refused _ => exact ⟨session.pending stream, by simp, by simp [Session.Leaves]⟩

-----------------------------------------------------------------------------------------
-- The account of a play
-----------------------------------------------------------------------------------------

variable {σ : Type} [Peer σ]

/-- What came while steps were taken was taken by the satisfied ones or is left. Witness: induction
on the steps; what the first leaves pending is the beginning of what the others find.
-/
theorem Exchange.takeSteps_accounted (limit : Option Duration) (stream : Stream)
    (number : Nat) (x : Exchange σ) (steps : List Step)
    : ∃ left,
        x.session.pending stream ++ received stream (x.stepsCalls limit number steps)
            = x.takenOn limit stream number steps ++ left
          ∧ (x.takeSteps limit number steps).exchange.session.Leaves stream left
              (x.takeSteps limit number steps).verdict := by
  induction steps generalizing number x with
  | nil => exact ⟨x.session.pending stream, by simp [stepsCalls_nil, takenOn], rfl⟩
  | cons step rest ih =>
      obtain ⟨left, account, leaves⟩ :=
        (x.stepCalls_taken limit number step).2.accounted stream
      cases came : (x.takeStep limit number step).verdict with
      | some verdict =>
          rw [came] at account leaves
          rw [stepsCalls_cons_some came, takeSteps_cons_some came, takenOn, came]
          exact ⟨left, account, leaves⟩
      | none =>
          rw [came, if_pos rfl] at account
          rw [came] at leaves
          obtain ⟨last, others, lastLeaves⟩ :=
            ih (number + 1) (x.takeStep limit number step).exchange
          rw [stepsCalls_cons_none came, takeSteps_cons_none came, takenOn, came]
          refine ⟨last, ?_, lastLeaves⟩
          have found : (x.takeStep limit number step).exchange.session.pending stream = left :=
            leaves
          rw [found] at others
          rw [received_append, ← List.append_assoc, List.append_assoc (Step.takes ..), ← others,
            ← List.append_assoc]
          exact congrArg (· ++ _) account

/-- Gathering a stream puts what came behind what was pending, by induction on the reads. -/
theorem Gathered.pending_eq {stream : Stream} {session final : Session}
    {answers : List Reception} (came : Gathered stream session answers final)
    : final.pending stream = session.pending stream ++ gathered answers := by
  induction came with
  | chunk _ ih =>
      rw [ih, Session.pending_append, List.append_assoc]
      rfl
  | ended => exact (List.append_nil _).symm
  | failed => exact (List.append_nil _).symm

/-- Gathering a stream leaves the other alone, by induction on the reads. -/
theorem Gathered.pending_of_ne {stream asked : Stream} {session final : Session}
    {answers : List Reception} (came : Gathered stream session answers final)
    (ne : asked ≠ stream)
    : final.pending asked = session.pending asked := by
  induction came with
  | chunk _ ih => rw [ih, Session.pending_append_of_ne ne]
  | ended => rfl
  | failed => rfl

/-- What came at the end of a play is left behind what was pending, by cases on the rules. -/
theorem Closed.leaves {limit : Option Duration} {number : Nat} {session final : Session}
    {calls : List Call} {verdict : Option Verdict}
    (closed : Closed limit number session calls final verdict) (stream : Stream)
    : final.Leaves stream (session.pending stream ++ received stream calls)
        (some (verdict.getD (.passed final.exitCode))) := by
  cases closed with
  | refused => exact (List.append_nil _).symm
  | gathered stdout stderr =>
      change final.pending stream = _
      rw [received_wait, received_append]
      cases stream with
      | stdout =>
          rw [stderr.pending_of_ne (by decide), stdout.pending_eq, received_reads,
            received_reads_of_ne (by decide), Session.pending_noteExit, List.append_nil]
      | stderr =>
          rw [stderr.pending_eq, stdout.pending_of_ne (by decide), received_reads,
            received_reads_of_ne (by decide), Session.pending_noteExit, List.nil_append]

/-- No octet is lost, doubled or moved: on each stream what was pending before a play and what came
during it is, in order, what the satisfied steps took and what is left.
-/
theorem play_accounted (limit : Option Duration) (scenario : Scenario) (x : Exchange σ)
    (stream : Stream)
    : ∃ left,
        x.session.pending stream ++ received stream (playCalls limit scenario.steps x)
            = x.takenOn limit stream 1 scenario.steps ++ left
          ∧ (play limit scenario x).2.session.Leaves stream left
              (some (play limit scenario x).1) := by
  obtain ⟨left, account, leaves⟩ := x.takeSteps_accounted limit stream 1 scenario.steps
  unfold play
  cases came : (x.takeSteps limit 1 scenario.steps).verdict with
  | some verdict =>
      rw [came] at leaves
      rw [playCalls_of_stopped came, playSteps_of_stopped came]
      exact ⟨left, account, leaves⟩
  | none =>
      rw [came] at leaves
      cases closes : Step.closesLast scenario.steps with
      | false =>
          rw [playCalls_of_open came closes, playSteps_of_open came closes]
          exact ⟨left, account, leaves⟩
      | true =>
          rw [playCalls_of_closed came closes, playSteps_of_closed came closes]
          obtain ⟨-, closed⟩ := (x.takeSteps limit 1 scenario.steps).exchange.closeCalls_closed
            limit scenario.steps.length
          have found
              : (x.takeSteps limit 1 scenario.steps).exchange.session.pending stream = left :=
            leaves
          have more := closed.leaves stream
          rw [found] at more
          refine ⟨_, ?_, more⟩
          rw [received_append, ← List.append_assoc, account, List.append_assoc]

end Dialogue
