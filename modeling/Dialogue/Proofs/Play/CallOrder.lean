import Dialogue.Proofs.Play.Record

/-!
The order of the calls of a play. A step sends its input once, before it reads, and reads no stream
but its own; no step is begun before those in front of it are satisfied. The peer is waited for
once, after all steps, and what follows the wait are reads.
-/

namespace Dialogue

-----------------------------------------------------------------------------------------
-- The orders
-----------------------------------------------------------------------------------------

/-- The reads for an expectation: all of its stream and with the limit of the play. Nothing is read
where nothing is expected.
-/
inductive ReadsFor (limit : Option Duration) : Option Expectation → List Call → Prop
  | nothing : ReadsFor limit none []
  | expected (expectation : Expectation) (answers : List Reception)
    : ReadsFor limit (some expectation) (Call.reads expectation.stream limit answers)

/-- The order of the calls of a step: its input, if it has one, and then its reads, which are made
only if the input was taken.
-/
inductive StepOrder (limit : Option Duration) (step : Step) : List Call → Prop
  | quiet {calls : List Call} (input : step.input = none)
    (reads : ReadsFor limit step.expectation calls)
    : StepOrder limit step calls
  | sent {text : String} {calls : List Call} (input : step.input = some text)
    (reads : ReadsFor limit step.expectation calls)
    : StepOrder limit step (.send text (.ok ()) :: calls)
  | refused {text : String} {error : PeerError} (input : step.input = some text)
    : StepOrder limit step [.send text (.error error)]

/-- The order of the calls after the last step: the wait, and only if it went well the reads of
stdout and then those of stderr. They wait for a tenth of a second at most, and no longer than the
limit of the play.
-/
inductive CloseOrder (limit : Option Duration) : List Call → Prop
  | refused {error : PeerError} : CloseOrder limit [.wait (.error error)]
  | gathered {code : Option Int} {grace : Duration} {out err : List Reception}
    (longest
      : grace.nanoseconds = limit.elim 100000000 fun limit => min limit.nanoseconds 100000000)
    : CloseOrder limit
        (.wait (.ok code) :: (Call.reads .stdout (some grace) out
          ++ Call.reads .stderr (some grace) err))

/-- A step after which the program is not expected to end. -/
def Step.goingOn (step : Step) : Step :=
  { step with closes := false }

/-- The order of all calls of a play: one turn for each step that is begun, and what comes after
the last step.
-/
structure CallOrder {σ : Type} [Peer σ] (limit : Option Duration) (steps : List Step)
    (x : Exchange σ) (turns : List (List Call)) (closing : List Call) : Prop where
  /-- They are the calls that the peer answered during the play. -/
  answered : Answered x.peer (playCalls limit steps x) (playSteps limit steps x).2.peer
  parts : playCalls limit steps x = turns.flatten ++ closing
  /-- A step has a turn if and only if all steps before it were satisfied. -/
  begun
    : ∀ index,
        index < turns.length
          ↔ index < steps.length ∧ (x.takeSteps limit 1 (steps.take index)).verdict = none
  /-- A turn is the calls of its step, made where the steps before it had led. -/
  made
    : ∀ {index : Nat} {step : Step} {calls : List Call},
        steps[index]? = some step
        → turns[index]? = some calls
        → calls
          = (x.takeSteps limit 1 (steps.take index)).exchange.stepCalls limit (1 + index) step
  ordered
    : ∀ {index : Nat} {step : Step} {calls : List Call},
        steps[index]? = some step → turns[index]? = some calls → StepOrder limit step calls
  /-- The peer is waited for if and only if all steps were satisfied and the last one closes. -/
  waits
    : closing ≠ []
        ↔ (x.takeSteps limit 1 steps).verdict = none
          ∧ ∃ before last, steps = before ++ [last] ∧ last.closes = true
  closed : closing = [] ∨ CloseOrder limit closing
  /-- Whether another step than the last closes makes no difference. -/
  others
    : ∀ {before : List Step} {last : Step},
        steps = before ++ [last]
        → playCalls limit (before.map Step.goingOn ++ [last]) x = playCalls limit steps x

-----------------------------------------------------------------------------------------
-- The calls of a step, and those at the end
-----------------------------------------------------------------------------------------

/-- An expectation is awaited by reads for it, by cases on the rules. -/
theorem ExpectationAwaited.readsFor {limit : Option Duration} {number : Nat}
    {expectation : Option Expectation} {session final : Session} {calls : List Call}
    {verdict : Option Verdict}
    (awaited : ExpectationAwaited limit number session expectation calls final verdict)
    : ReadsFor limit expectation calls := by
  cases awaited with
  | nothing => exact .nothing
  | @text stream expected answers _ _ _ => exact .expected ⟨stream, some expected⟩ answers
  | @output stream answers _ _ _ => exact .expected ⟨stream, none⟩ answers

/-- A step is taken with its calls in order, by cases on the rules. -/
theorem StepTaken.ordered {limit : Option Duration} {number : Nat} {step : Step}
    {session final : Session} {calls : List Call} {verdict : Option Verdict}
    (taken : StepTaken limit number step session calls final verdict)
    : StepOrder limit step calls := by
  cases taken with
  | quiet input awaited => exact .quiet input awaited.readsFor
  | sent input awaited => exact .sent input awaited.readsFor
  | refused input => exact .refused input

/-- The reads for an expectation have the limit of the play. -/
theorem ReadsFor.limit_eq {limit asked : Option Duration} {expectation : Option Expectation}
    {calls : List Call} {stream : Stream} {answer : Reception}
    (reads : ReadsFor limit expectation calls) (made : .receive stream asked answer ∈ calls)
    : asked = limit := by
  cases reads with
  | nothing => cases made
  | expected expectation answers =>
      obtain ⟨brought, -, same⟩ := List.mem_map.mp made
      cases same
      rfl

/-- The reads of a step have the limit of the play, by cases on its order. -/
theorem StepOrder.limit_eq {limit asked : Option Duration} {step : Step} {calls : List Call}
    {stream : Stream} {answer : Reception} (ordered : StepOrder limit step calls)
    (made : .receive stream asked answer ∈ calls)
    : asked = limit := by
  cases ordered with
  | quiet _ reads => exact reads.limit_eq made
  | sent _ reads =>
      rcases List.mem_cons.mp made with same | made
      · cases same
      · exact reads.limit_eq made
  | refused _ => cases List.mem_singleton.mp made

/-- The reads of all steps have the limit of the play, by induction on the steps. -/
theorem StepsTaken.limit_eq {limit asked : Option Duration} {number : Nat} {steps : List Step}
    {session final : Session} {calls : List Call} {verdict : Option Verdict} {stream : Stream}
    {answer : Reception} (taken : StepsTaken limit number steps session calls final verdict)
    (made : .receive stream asked answer ∈ calls)
    : asked = limit := by
  induction taken with
  | done => cases made
  | stopped taken => exact taken.ordered.limit_eq made
  | satisfied taken _ ih =>
      rcases List.mem_append.mp made with own | later
      · exact taken.ordered.limit_eq own
      · exact ih later

/-- A read after the wait lasts a tenth of a second at most, and no longer than the limit. -/
theorem Exchange.nanoseconds_graceOf (limit : Option Duration)
    : (graceOf limit).nanoseconds
      = limit.elim 100000000 fun limit => min limit.nanoseconds 100000000 := by
  cases limit with
  | none => rfl
  | some limit =>
      change (limit.shorter longestGrace).nanoseconds = min limit.nanoseconds 100000000
      unfold Duration.shorter
      split
      · next shorter => exact (Nat.min_eq_left shorter).symm
      · next longer => exact (Nat.min_eq_right (Nat.le_of_not_le longer)).symm

/-- The end is waited for with the calls in order, and there is one at least. -/
theorem Closed.ordered {limit : Option Duration} {number : Nat} {session final : Session}
    {calls : List Call} {verdict : Option Verdict}
    (closed : Closed limit number session calls final verdict)
    : calls ≠ [] ∧ CloseOrder limit calls := by
  cases closed with
  | refused => exact ⟨List.cons_ne_nil _ _, .refused⟩
  | gathered _ _ =>
      exact ⟨List.cons_ne_nil _ _, .gathered (Exchange.nanoseconds_graceOf limit)⟩

-----------------------------------------------------------------------------------------
-- The turns of the steps
-----------------------------------------------------------------------------------------

variable {σ : Type} [Peer σ]

namespace Exchange

/-- The calls of the steps that are begun, each step's on their own. -/
def turns (limit : Option Duration) (number : Nat) (x : Exchange σ)
    : List Step → List (List Call)
  | [] => []
  | step :: rest =>
    let turn := x.takeStep limit number step
    x.stepCalls limit number step ::
      match turn.verdict with
      | some _ => []
      | none => turn.exchange.turns limit (number + 1) rest

/-- A step that comes to a verdict has the last turn. -/
theorem turns_cons_some {limit : Option Duration} {number : Nat} {step : Step}
    {x : Exchange σ} {verdict : Verdict}
    (came : (x.takeStep limit number step).verdict = some verdict) (rest : List Step)
    : x.turns limit number (step :: rest) = [x.stepCalls limit number step] := by
  rw [turns, came]

/-- After the turn of a step that is satisfied come those of the others. -/
theorem turns_cons_none {limit : Option Duration} {number : Nat} {step : Step}
    {x : Exchange σ} (came : (x.takeStep limit number step).verdict = none)
    (rest : List Step)
    : x.turns limit number (step :: rest)
      = x.stepCalls limit number step
        :: (x.takeStep limit number step).exchange.turns limit (number + 1) rest := by
  rw [turns, came]

/-- The turns are all calls of the steps, by induction on the steps. -/
theorem flatten_turns (limit : Option Duration) (number : Nat) (x : Exchange σ)
    (steps : List Step)
    : (x.turns limit number steps).flatten = x.stepsCalls limit number steps := by
  induction steps generalizing number x with
  | nil => exact (stepsCalls_nil limit number x).symm
  | cons step rest ih =>
      cases came : (x.takeStep limit number step).verdict with
      | some _ =>
          rw [turns_cons_some came, stepsCalls_cons_some came, List.flatten_singleton]
      | none => rw [turns_cons_none came, stepsCalls_cons_none came, List.flatten_cons, ih]

/-- A step has a turn exactly if those before it were satisfied. Witness: induction on the steps,
by cases on whether the first comes to a verdict, after which none is satisfied.
-/
theorem lt_length_turns (limit : Option Duration) (number : Nat) (x : Exchange σ)
    (steps : List Step) (index : Nat)
    : index < (x.turns limit number steps).length
      ↔ index < steps.length
        ∧ (x.takeSteps limit number (steps.take index)).verdict = none := by
  induction steps generalizing number x index with
  | nil => simp [turns]
  | cons step rest ih =>
      cases came : (x.takeStep limit number step).verdict with
      | some verdict =>
          rw [turns_cons_some came]
          cases index with
          | zero => simp [takeSteps, goOn]
          | succ index => simp [takeSteps_cons_some came, came]
      | none =>
          rw [turns_cons_none came]
          cases index with
          | zero => simp [takeSteps, goOn]
          | succ index => simp [takeSteps_cons_none came, ih]

/-- A turn is the calls of its step where the steps before it led, by induction on the steps. -/
theorem getElem?_turns {limit : Option Duration} {number : Nat} {x : Exchange σ}
    {steps : List Step} {index : Nat} {step : Step} {calls : List Call}
    (place : steps[index]? = some step)
    (turn : (x.turns limit number steps)[index]? = some calls)
    : calls
      = (x.takeSteps limit number (steps.take index)).exchange.stepCalls limit
          (number + index) step := by
  induction steps generalizing number x index with
  | nil => cases place
  | cons first rest ih =>
      cases came : (x.takeStep limit number first).verdict with
      | some verdict =>
          rw [turns_cons_some came] at turn
          cases index with
          | zero =>
              cases place
              cases turn
              rfl
          | succ index => cases turn
      | none =>
          rw [turns_cons_none came] at turn
          cases index with
          | zero =>
              cases place
              cases turn
              rfl
          | succ index =>
              rw [List.getElem?_cons_succ] at place turn
              rw [List.take_succ_cons, takeSteps_cons_none came, ih place turn,
                Nat.add_assoc, Nat.add_comm 1]

-----------------------------------------------------------------------------------------
-- Steps that are not the last
-----------------------------------------------------------------------------------------

/-- Whether a step closes makes no difference when it is taken. -/
theorem takeStep_goingOn (limit : Option Duration) (number : Nat) (step : Step)
    (x : Exchange σ)
    : x.takeStep limit number step.goingOn = x.takeStep limit number step :=
  rfl

/-- Whether the first steps close makes no difference, by induction on them. -/
theorem takeSteps_goingOn (limit : Option Duration) (number : Nat) (x : Exchange σ)
    (before rest : List Step)
    : x.takeSteps limit number (before.map Step.goingOn ++ rest)
      = x.takeSteps limit number (before ++ rest) := by
  induction before generalizing number x with
  | nil => rfl
  | cons step before ih =>
      simp only [List.map_cons, List.cons_append, takeSteps, takeStep_goingOn, ih]

end Exchange

/-- Whether a step before the last one closes makes no difference to a play. -/
theorem playSteps_goingOn (limit : Option Duration) (before : List Step) (last : Step)
    (x : Exchange σ)
    : playSteps limit (before.map Step.goingOn ++ [last]) x
      = playSteps limit (before ++ [last]) x := by
  have closes
      : Step.closesLast (before.map Step.goingOn ++ [last])
        = Step.closesLast (before ++ [last]) := by
    simp only [Step.closesLast, List.getLast?_concat]
  have length : (before.map Step.goingOn ++ [last]).length = (before ++ [last]).length := by
    simp only [List.length_append, List.length_map]
  simp only [playSteps, Exchange.takeSteps_goingOn, closes, length]

/-- Whether a step before the last one closes makes no difference to the calls. -/
theorem playCalls_goingOn (limit : Option Duration) (before : List Step) (last : Step)
    (x : Exchange σ)
    : playCalls limit (before.map Step.goingOn ++ [last]) x
      = playCalls limit (before ++ [last]) x := by
  rw [playCalls, playCalls, playSteps_goingOn]

-----------------------------------------------------------------------------------------
-- The order of the calls of a play
-----------------------------------------------------------------------------------------

/-- The calls of a play are its turns and then those at the end, if it comes to that. -/
theorem playCalls_parts (limit : Option Duration) (steps : List Step) (x : Exchange σ)
    : ∃ closing,
        playCalls limit steps x = (x.turns limit 1 steps).flatten ++ closing
          ∧ (closing ≠ []
              ↔ (x.takeSteps limit 1 steps).verdict = none
                ∧ ∃ before last, steps = before ++ [last] ∧ last.closes = true)
          ∧ (closing = [] ∨ CloseOrder limit closing) := by
  rw [Exchange.flatten_turns]
  cases came : (x.takeSteps limit 1 steps).verdict with
  | some verdict =>
      refine ⟨[], ?_, by simp, .inl rfl⟩
      rw [playCalls_of_stopped came, List.append_nil]
  | none =>
      cases closes : Step.closesLast steps with
      | false =>
          refine ⟨[], ?_, ?_, .inl rfl⟩
          · rw [playCalls_of_open came closes, List.append_nil]
          · refine ⟨fun none => absurd rfl none, ?_⟩
            rintro ⟨-, before, last, rfl, lastCloses⟩
            rw [Step.closesLast, List.getLast?_concat] at closes
            exact absurd (lastCloses.symm.trans closes) (by decide)
      | true =>
          obtain ⟨made, ordered⟩ := ((x.takeSteps limit 1 steps).exchange.closeCalls_closed
            limit steps.length).2.ordered
          exact ⟨_, playCalls_of_closed came closes,
            iff_of_true made ⟨rfl, Step.split_of_closesLast closes⟩, .inr ordered⟩

/-- The calls of a play are made in order, with any peer and whatever it answers. -/
theorem play_calls_ordered (limit : Option Duration) (scenario : Scenario) (x : Exchange σ)
    : ∃ turns closing, CallOrder limit scenario.steps x turns closing := by
  obtain ⟨closing, parts, waits, closed⟩ := playCalls_parts limit scenario.steps x
  refine ⟨x.turns limit 1 scenario.steps, closing, ?_⟩
  exact {
    answered := playCalls_answered limit scenario.steps x
    parts
    begun := x.lt_length_turns limit 1 scenario.steps
    made := Exchange.getElem?_turns
    ordered := by
      intro index step calls place turn
      rw [Exchange.getElem?_turns place turn]
      exact (Exchange.stepCalls_taken limit (1 + index) step _).2.ordered
    waits
    closed
    others := by
      rintro before last split
      rw [split]
      exact playCalls_goingOn limit before last x
  }

end Dialogue
