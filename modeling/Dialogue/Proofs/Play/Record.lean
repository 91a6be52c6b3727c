import Dialogue.Proofs.Play.Adequacy

/-!
The calls of a play. They are read off the record of the same play with a recorded peer, which
comes out as the play itself does; and the calls of a play are those of its steps in order, then
those at its end.
-/

namespace Dialogue

variable {σ : Type} [Peer σ]

-----------------------------------------------------------------------------------------
-- The calls that are made
-----------------------------------------------------------------------------------------

namespace Exchange

/-- An exchange whose peer is recorded from here on. -/
def recorded (x : Exchange σ) : Exchange (Recorded σ) :=
  ⟨x.session, ⟨x.peer, []⟩⟩

/-- The calls made while a step is taken. -/
def stepCalls (limit : Option Duration) (number : Nat) (step : Step) (x : Exchange σ)
    : List Call :=
  (x.recorded.takeStep limit number step).exchange.peer.calls

/-- The calls made while steps are taken. -/
def stepsCalls (limit : Option Duration) (number : Nat) (x : Exchange σ) (steps : List Step)
    : List Call :=
  (x.recorded.takeSteps limit number steps).exchange.peer.calls

/-- The calls made at the end of a play. -/
def closeCalls (limit : Option Duration) (number : Nat) (x : Exchange σ) : List Call :=
  (x.recorded.close limit number).exchange.peer.calls

end Exchange

/-- The calls made while steps are played. -/
def playCalls (limit : Option Duration) (steps : List Step) (x : Exchange σ) : List Call :=
  (playSteps limit steps x.recorded).2.peer.calls

-----------------------------------------------------------------------------------------
-- What calls brought
-----------------------------------------------------------------------------------------

/-- The octets that an answer brings. -/
def Reception.octets : Reception → Octets
  | .chunk octets => octets
  | _ => []

/-- The octets that answers bring, in order. -/
def gathered (answers : List Reception) : Octets :=
  answers.flatMap Reception.octets

/-- No answers bring nothing. -/
@[simp]
theorem gathered_nil
    : gathered [] = [] :=
  rfl

/-- A chunk is brought before what comes after it. -/
@[simp]
theorem gathered_chunk (octets : Octets) (answers : List Reception)
    : gathered (.chunk octets :: answers) = octets ++ gathered answers :=
  rfl

/-- The end of a stream brings nothing. -/
@[simp]
theorem gathered_ended (answers : List Reception)
    : gathered (.ended :: answers) = gathered answers :=
  rfl

/-- A failed read brings nothing. -/
@[simp]
theorem gathered_failed (error : PeerError) (answers : List Reception)
    : gathered (.failed error :: answers) = gathered answers :=
  rfl

/-- The octets that a call brings on a stream. -/
def Call.octetsOn (stream : Stream) : Call → Octets
  | .receive asked _ answer => if asked = stream then answer.octets else []
  | _ => []

/-- The octets that calls bring on a stream, in order. -/
def received (stream : Stream) (calls : List Call) : Octets :=
  calls.flatMap (Call.octetsOn stream)

/-- No calls bring nothing. -/
@[simp]
theorem received_nil (stream : Stream)
    : received stream [] = [] :=
  rfl

/-- A call brings what it does before those after it. -/
theorem received_cons (stream : Stream) (call : Call) (calls : List Call)
    : received stream (call :: calls) = call.octetsOn stream ++ received stream calls :=
  List.flatMap_cons

/-- Sending brings nothing. -/
@[simp]
theorem received_send (stream : Stream) (text : String) (answer : Except PeerError Unit)
    (calls : List Call)
    : received stream (.send text answer :: calls) = received stream calls :=
  rfl

/-- Waiting brings nothing. -/
@[simp]
theorem received_wait (stream : Stream) (answer : Except PeerError (Option Int))
    (calls : List Call)
    : received stream (.wait answer :: calls) = received stream calls :=
  rfl

/-- Calls bring what they do in order. -/
@[simp]
theorem received_append (stream : Stream) (calls more : List Call)
    : received stream (calls ++ more) = received stream calls ++ received stream more :=
  List.flatMap_append

/-- Reads of a stream bring there what their answers bring. -/
@[simp]
theorem received_reads (stream : Stream) (limit : Option Duration) (answers : List Reception)
    : received stream (Call.reads stream limit answers) = gathered answers := by
  induction answers with
  | nil => rfl
  | cons answer answers ih =>
      have head : Call.octetsOn stream (.receive stream limit answer) = answer.octets :=
        if_pos rfl
      rw [Call.reads, List.map_cons, received_cons, head]
      exact congrArg (answer.octets ++ ·) ih

/-- Reads of a stream bring nothing on another. -/
theorem received_reads_of_ne {stream asked : Stream} (ne : stream ≠ asked)
    (limit : Option Duration) (answers : List Reception)
    : received asked (Call.reads stream limit answers) = [] := by
  induction answers with
  | nil => rfl
  | cons answer answers ih =>
      have head : Call.octetsOn asked (.receive stream limit answer) = [] := if_neg ne
      rw [Call.reads, List.map_cons, received_cons, head]
      exact ih

-----------------------------------------------------------------------------------------
-- A recorded play comes out as the play itself does
-----------------------------------------------------------------------------------------

omit [Peer σ] in
/-- The record of a run that started with an empty one holds the calls of the run. -/
@[simp]
theorem Recorded.calls_reverse (peer : σ) (calls : List Call)
    : (⟨peer, calls.reverse ++ []⟩ : Recorded σ).calls = calls := by
  simp [Recorded.calls]

/-- The calls by which a step can be taken are those that are recorded. -/
theorem StepTaken.calls_eq {limit : Option Duration} {number : Nat} {step : Step}
    {x : Exchange σ} {final : Session} {calls : List Call} {verdict : Option Verdict}
    (taken : StepTaken limit number step x.session calls final verdict) {last : σ}
    (answered : Answered x.peer calls last)
    : x.stepCalls limit number step = calls := by
  rw [Exchange.stepCalls, Exchange.recorded, taken.determines (answered.recorded []),
    Recorded.calls_reverse]

/-- The calls by which steps can be taken are those that are recorded. -/
theorem StepsTaken.calls_eq {limit : Option Duration} {number : Nat} {steps : List Step}
    {x : Exchange σ} {final : Session} {calls : List Call} {verdict : Option Verdict}
    (taken : StepsTaken limit number steps x.session calls final verdict) {last : σ}
    (answered : Answered x.peer calls last)
    : x.stepsCalls limit number steps = calls := by
  rw [Exchange.stepsCalls, Exchange.recorded, taken.determines (answered.recorded []),
    Recorded.calls_reverse]

/-- The calls by which the end can be waited for are those that are recorded. -/
theorem Closed.calls_eq {limit : Option Duration} {number : Nat} {x : Exchange σ}
    {final : Session} {calls : List Call} {verdict : Option Verdict}
    (closed : Closed limit number x.session calls final verdict) {last : σ}
    (answered : Answered x.peer calls last)
    : x.closeCalls limit number = calls := by
  rw [Exchange.closeCalls, Exchange.recorded, closed.determines (answered.recorded []),
    Recorded.calls_reverse]

/-- The calls by which steps can be played are those that are recorded. -/
theorem Played.calls_eq {limit : Option Duration} {steps : List Step} {x : Exchange σ}
    {final : Session} {calls : List Call} {verdict : Verdict}
    (played : Played limit steps x.session calls final verdict) {last : σ}
    (answered : Answered x.peer calls last)
    : playCalls limit steps x = calls := by
  rw [playCalls, Exchange.recorded, played.determines (answered.recorded []),
    Recorded.calls_reverse]

/-- The calls that are recorded are those that the peer answered during the play. -/
theorem playCalls_answered (limit : Option Duration) (steps : List Step) (x : Exchange σ)
    : Answered x.peer (playCalls limit steps x) (playSteps limit steps x).2.peer := by
  obtain ⟨calls, answered, played⟩ := playSteps_follows limit steps x
  rw [played.calls_eq answered]
  exact answered

namespace Exchange

/-- A step is taken by the rules with the calls that are recorded. -/
theorem stepCalls_taken (limit : Option Duration) (number : Nat) (step : Step)
    (x : Exchange σ)
    : Answered x.peer (x.stepCalls limit number step)
          (x.takeStep limit number step).exchange.peer
        ∧ StepTaken limit number step x.session (x.stepCalls limit number step)
            (x.takeStep limit number step).exchange.session
            (x.takeStep limit number step).verdict := by
  obtain ⟨calls, answered, taken⟩ := x.takeStep_follows limit number step
  rw [taken.calls_eq answered]
  exact ⟨answered, taken⟩

/-- Steps are taken by the rules with the calls that are recorded. -/
theorem stepsCalls_taken (limit : Option Duration) (number : Nat) (x : Exchange σ)
    (steps : List Step)
    : Answered x.peer (x.stepsCalls limit number steps)
          (x.takeSteps limit number steps).exchange.peer
        ∧ StepsTaken limit number steps x.session (x.stepsCalls limit number steps)
            (x.takeSteps limit number steps).exchange.session
            (x.takeSteps limit number steps).verdict := by
  obtain ⟨calls, answered, taken⟩ := x.takeSteps_follows limit number steps
  rw [taken.calls_eq answered]
  exact ⟨answered, taken⟩

/-- The end is waited for by the rules with the calls that are recorded. -/
theorem closeCalls_closed (limit : Option Duration) (number : Nat) (x : Exchange σ)
    : Answered x.peer (x.closeCalls limit number) (x.close limit number).exchange.peer
        ∧ Closed limit number x.session (x.closeCalls limit number)
            (x.close limit number).exchange.session (x.close limit number).verdict := by
  obtain ⟨calls, answered, closed⟩ := x.close_follows limit number
  rw [closed.calls_eq answered]
  exact ⟨answered, closed⟩

-----------------------------------------------------------------------------------------
-- The calls of a play are those of its parts
-----------------------------------------------------------------------------------------

/-- After a step that comes to a verdict no other step is taken. -/
theorem takeSteps_cons_some {limit : Option Duration} {number : Nat} {step : Step}
    {x : Exchange σ} {verdict : Verdict}
    (came : (x.takeStep limit number step).verdict = some verdict) (rest : List Step)
    : x.takeSteps limit number (step :: rest) = x.takeStep limit number step := by
  rw [takeSteps, came]

/-- After a step that is satisfied the others are taken. -/
theorem takeSteps_cons_none {limit : Option Duration} {number : Nat} {step : Step}
    {x : Exchange σ} (came : (x.takeStep limit number step).verdict = none)
    (rest : List Step)
    : x.takeSteps limit number (step :: rest)
      = (x.takeStep limit number step).exchange.takeSteps limit (number + 1) rest := by
  rw [takeSteps, came]

/-- Where steps are satisfied, so is the first of them, and then the others. -/
theorem satisfied_cons {limit : Option Duration} {number : Nat} {step : Step} {x : Exchange σ}
    {rest : List Step} (satisfied : (x.takeSteps limit number (step :: rest)).verdict = none)
    : (x.takeStep limit number step).verdict = none
        ∧ ((x.takeStep limit number step).exchange.takeSteps limit (number + 1) rest).verdict
          = none := by
  cases came : (x.takeStep limit number step).verdict with
  | some verdict =>
      rw [takeSteps_cons_some came, came] at satisfied
      cases satisfied
  | none =>
      rw [takeSteps_cons_none came] at satisfied
      exact ⟨rfl, satisfied⟩

/-- Without steps there are no calls. -/
theorem stepsCalls_nil (limit : Option Duration) (number : Nat) (x : Exchange σ)
    : x.stepsCalls limit number [] = [] :=
  StepsTaken.calls_eq .done (.nil _)

/-- After a step that comes to a verdict there are no more calls. -/
theorem stepsCalls_cons_some {limit : Option Duration} {number : Nat} {step : Step}
    {x : Exchange σ} {verdict : Verdict}
    (came : (x.takeStep limit number step).verdict = some verdict) (rest : List Step)
    : x.stepsCalls limit number (step :: rest) = x.stepCalls limit number step := by
  obtain ⟨answered, taken⟩ := x.stepCalls_taken limit number step
  rw [came] at taken
  exact StepsTaken.calls_eq (.stopped taken) answered

/-- After a step that is satisfied come the calls of the others. -/
theorem stepsCalls_cons_none {limit : Option Duration} {number : Nat} {step : Step}
    {x : Exchange σ} (came : (x.takeStep limit number step).verdict = none)
    (rest : List Step)
    : x.stepsCalls limit number (step :: rest)
      = x.stepCalls limit number step
        ++ (x.takeStep limit number step).exchange.stepsCalls limit (number + 1) rest := by
  obtain ⟨answered, taken⟩ := x.stepCalls_taken limit number step
  obtain ⟨later, others⟩ :=
    (x.takeStep limit number step).exchange.stepsCalls_taken limit (number + 1) rest
  rw [came] at taken
  exact StepsTaken.calls_eq (.satisfied taken others) (answered.append later)

/-- After steps that are satisfied the others are taken, by induction on the satisfied ones. -/
theorem takeSteps_append {limit : Option Duration} {number : Nat} {x : Exchange σ}
    {before : List Step} (satisfied : (x.takeSteps limit number before).verdict = none)
    (rest : List Step)
    : x.takeSteps limit number (before ++ rest)
      = (x.takeSteps limit number before).exchange.takeSteps limit (number + before.length)
          rest := by
  induction before generalizing number x with
  | nil => rfl
  | cons step before ih =>
      obtain ⟨came, others⟩ := satisfied_cons satisfied
      rw [List.cons_append, takeSteps_cons_none came, takeSteps_cons_none came, ih others,
        List.length_cons, Nat.add_assoc, Nat.add_comm 1]

/-- After steps that are satisfied come the calls of the others, by induction on the satisfied
ones.
-/
theorem stepsCalls_append {limit : Option Duration} {number : Nat} {x : Exchange σ}
    {before : List Step} (satisfied : (x.takeSteps limit number before).verdict = none)
    (rest : List Step)
    : x.stepsCalls limit number (before ++ rest)
      = x.stepsCalls limit number before
        ++ (x.takeSteps limit number before).exchange.stepsCalls limit
            (number + before.length) rest := by
  induction before generalizing number x with
  | nil => rw [stepsCalls_nil, List.nil_append, List.nil_append]; rfl
  | cons step before ih =>
      obtain ⟨came, others⟩ := satisfied_cons satisfied
      rw [List.cons_append, takeSteps_cons_none came, stepsCalls_cons_none came,
        stepsCalls_cons_none came, ih others, List.length_cons, Nat.add_assoc, Nat.add_comm 1,
        List.append_assoc]

/-- Steps that come to a verdict do so at one of them, before which all were satisfied. -/
theorem stopped_at {limit : Option Duration} {number : Nat} {x : Exchange σ}
    {steps : List Step} {verdict : Verdict}
    (stopped : (x.takeSteps limit number steps).verdict = some verdict)
    : ∃ before step rest,
        steps = before ++ step :: rest
          ∧ (x.takeSteps limit number before).verdict = none
          ∧ ((x.takeSteps limit number before).exchange.takeStep limit
              (number + before.length) step).verdict = some verdict := by
  induction steps generalizing number x with
  | nil => cases stopped
  | cons step rest ih =>
      cases came : (x.takeStep limit number step).verdict with
      | some _ =>
          rw [takeSteps_cons_some came, came] at stopped
          exact ⟨[], step, rest, rfl, rfl, came.trans stopped⟩
      | none =>
          rw [takeSteps_cons_none came] at stopped
          obtain ⟨before, last, after, rfl, satisfied, verdictCame⟩ := ih stopped
          refine ⟨step :: before, last, after, rfl, ?_, ?_⟩
          · rw [takeSteps_cons_none came]
            exact satisfied
          · rw [takeSteps_cons_none came, List.length_cons, Nat.add_comm before.length,
              ← Nat.add_assoc]
            exact verdictCame

end Exchange

-----------------------------------------------------------------------------------------
-- How a play comes out
-----------------------------------------------------------------------------------------

/-- Steps of which the last closes have a last one. -/
theorem Step.split_of_closesLast {steps : List Step} (closes : closesLast steps = true)
    : ∃ before step, steps = before ++ [step] ∧ step.closes = true := by
  unfold closesLast at closes
  cases found : steps.getLast? with
  | none =>
      rw [found] at closes
      cases closes
  | some step =>
      rw [found] at closes
      obtain ⟨before, rfl⟩ := List.getLast?_eq_some_iff.mp found
      exact ⟨before, step, rfl, closes⟩

/-- A play that a step ended comes out as the steps did. -/
theorem playSteps_of_stopped {limit : Option Duration} {steps : List Step} {x : Exchange σ}
    {verdict : Verdict} (came : (x.takeSteps limit 1 steps).verdict = some verdict)
    : playSteps limit steps x = (verdict, (x.takeSteps limit 1 steps).exchange) := by
  simp only [playSteps, came]

/-- A play of satisfied steps that does not close is over with them. -/
theorem playSteps_of_open {limit : Option Duration} {steps : List Step} {x : Exchange σ}
    (came : (x.takeSteps limit 1 steps).verdict = none)
    (goesOn : Step.closesLast steps = false)
    : playSteps limit steps x
      = (.passed (x.takeSteps limit 1 steps).exchange.session.exitCode,
          (x.takeSteps limit 1 steps).exchange) := by
  simp only [playSteps, came, goesOn, Bool.false_eq_true, if_false]

/-- A play of satisfied steps that closes comes out as its end does. -/
theorem playSteps_of_closed {limit : Option Duration} {steps : List Step} {x : Exchange σ}
    (came : (x.takeSteps limit 1 steps).verdict = none)
    (closes : Step.closesLast steps = true)
    : playSteps limit steps x
      = let last := (x.takeSteps limit 1 steps).exchange.close limit steps.length
        (last.verdict.getD (.passed last.exchange.session.exitCode), last.exchange) := by
  simp only [playSteps, came, closes, if_true]

/-- The calls of a play that a step ended are those of the steps. -/
theorem playCalls_of_stopped {limit : Option Duration} {steps : List Step} {x : Exchange σ}
    {verdict : Verdict} (came : (x.takeSteps limit 1 steps).verdict = some verdict)
    : playCalls limit steps x = x.stepsCalls limit 1 steps := by
  obtain ⟨answered, taken⟩ := x.stepsCalls_taken limit 1 steps
  rw [came] at taken
  exact Played.calls_eq (.stopped taken) answered

/-- A play that a step ended made the calls of the steps before it, which were satisfied, and then
its own.
-/
theorem playCalls_stopped_at {limit : Option Duration} {steps : List Step} {x : Exchange σ}
    {verdict : Verdict} (came : (x.takeSteps limit 1 steps).verdict = some verdict)
    : ∃ before step rest,
        let begun := (x.takeSteps limit 1 before).exchange
        steps = before ++ step :: rest
          ∧ (x.takeSteps limit 1 before).verdict = none
          ∧ (begun.takeStep limit (before.length + 1) step).verdict = some verdict
          ∧ playCalls limit steps x
              = x.stepsCalls limit 1 before
                ++ begun.stepCalls limit (before.length + 1) step := by
  obtain ⟨before, step, rest, split, satisfied, stopped⟩ := Exchange.stopped_at came
  refine ⟨before, step, rest, split, satisfied, ?_⟩
  rw [Nat.add_comm before.length]
  refine ⟨stopped, ?_⟩
  rw [playCalls_of_stopped came, split, Exchange.stepsCalls_append satisfied,
    Exchange.stepsCalls_cons_some stopped]

/-- The calls of a play that does not close are those of the steps. -/
theorem playCalls_of_open {limit : Option Duration} {steps : List Step} {x : Exchange σ}
    (came : (x.takeSteps limit 1 steps).verdict = none)
    (goesOn : Step.closesLast steps = false)
    : playCalls limit steps x = x.stepsCalls limit 1 steps := by
  obtain ⟨answered, taken⟩ := x.stepsCalls_taken limit 1 steps
  rw [came] at taken
  exact Played.calls_eq (.passed taken goesOn) answered

/-- The calls of a play that closes are those of the steps, then those at the end. -/
theorem playCalls_of_closed {limit : Option Duration} {steps : List Step} {x : Exchange σ}
    (came : (x.takeSteps limit 1 steps).verdict = none)
    (closes : Step.closesLast steps = true)
    : playCalls limit steps x
      = x.stepsCalls limit 1 steps
        ++ (x.takeSteps limit 1 steps).exchange.closeCalls limit steps.length := by
  obtain ⟨answered, taken⟩ := x.stepsCalls_taken limit 1 steps
  obtain ⟨waited, closed⟩ :=
    (x.takeSteps limit 1 steps).exchange.closeCalls_closed limit steps.length
  rw [came] at taken
  exact Played.calls_eq (.closed taken closes closed) (answered.append waited)

end Dialogue
