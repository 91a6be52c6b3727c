import Dialogue.Peer.Canned
import Dialogue.Proofs.Play.Outcome
import Mathlib.Data.List.Basic

/-!
What comes after the wait. Once the end of the program was waited for, the verdict, the log, the
exit code and what was sent are settled: a peer may do then what it wants. What it still says is
kept, each stream's own, and a stream is read to the end no matter how the reads of the other went.
-/

namespace Dialogue

-----------------------------------------------------------------------------------------
-- Reads that go on until one brings no chunk
-----------------------------------------------------------------------------------------

/-- Answers to reads of a stream that go on as long as they bring chunks: the last one, and only
the last one, is no chunk.
-/
def Exhausts (answers : List Reception) : Prop :=
  ∃ (chunks : List Octets) (last : Reception),
    answers = chunks.map .chunk ++ [last] ∧ ∀ octets, last ≠ .chunk octets

/-- A stream is gathered until an answer is no chunk, by induction on the reads. -/
theorem Gathered.exhausts {stream : Stream} {session final : Session}
    {answers : List Reception} (came : Gathered stream session answers final)
    : Exhausts answers := by
  induction came with
  | @chunk _ _ octets _ _ ih =>
      obtain ⟨chunks, last, rfl, none⟩ := ih
      exact ⟨octets :: chunks, last, rfl, none⟩
  | ended => exact ⟨[], .ended, rfl, fun _ => Reception.noConfusion⟩
  | @failed _ error => exact ⟨[], .failed error, rfl, fun _ => Reception.noConfusion⟩

/-- Gathering a stream logs nothing, by induction on the reads. -/
theorem Gathered.log_eq {stream : Stream} {session final : Session}
    {answers : List Reception} (came : Gathered stream session answers final)
    : final.log = session.log := by
  induction came with
  | chunk _ ih => rw [ih, Session.append, Session.log_setPending]
  | ended => rfl
  | failed => rfl

-----------------------------------------------------------------------------------------
-- Where the wait stands among the calls
-----------------------------------------------------------------------------------------

/-- No read is a wait. -/
theorem Call.wait_not_mem_reads (answer : Except PeerError (Option Int)) (stream : Stream)
    (limit : Option Duration) (answers : List Reception)
    : .wait answer ∉ Call.reads stream limit answers := by
  intro member
  obtain ⟨_, -, same⟩ := List.mem_map.mp member
  cases same

/-- While an expectation is awaited the end is not waited for. -/
theorem ExpectationAwaited.wait_not_mem {limit : Option Duration} {number : Nat}
    {expectation : Option Expectation} {session final : Session} {calls : List Call}
    {verdict : Option Verdict}
    (awaited : ExpectationAwaited limit number session expectation calls final verdict)
    (answer : Except PeerError (Option Int))
    : .wait answer ∉ calls := by
  cases awaited with
  | nothing => exact List.not_mem_nil
  | text _ => exact Call.wait_not_mem_reads _ _ _ _
  | output _ => exact Call.wait_not_mem_reads _ _ _ _

/-- While a step is taken the end is not waited for. -/
theorem StepTaken.wait_not_mem {limit : Option Duration} {number : Nat} {step : Step}
    {session final : Session} {calls : List Call} {verdict : Option Verdict}
    (taken : StepTaken limit number step session calls final verdict)
    (answer : Except PeerError (Option Int))
    : .wait answer ∉ calls := by
  cases taken with
  | quiet _ awaited => exact awaited.wait_not_mem answer
  | sent _ awaited =>
      intro member
      cases member with
      | tail _ member => exact awaited.wait_not_mem answer member
  | refused _ =>
      intro member
      cases member with
      | tail _ member => cases member

/-- While steps are taken the end is not waited for, by induction on the rules. -/
theorem StepsTaken.wait_not_mem {limit : Option Duration} {number : Nat} {steps : List Step}
    {session final : Session} {calls : List Call} {verdict : Option Verdict}
    (taken : StepsTaken limit number steps session calls final verdict)
    (answer : Except PeerError (Option Int))
    : .wait answer ∉ calls := by
  induction taken with
  | done => exact List.not_mem_nil
  | stopped taken => exact taken.wait_not_mem answer
  | satisfied taken _ ih =>
      intro member
      rcases List.mem_append.mp member with first | later
      · exact taken.wait_not_mem answer first
      · exact ih later

/-- At the end the peer is waited for first, and only once, by cases on the rules. -/
theorem Closed.waits_once {limit : Option Duration} {number : Nat} {session final : Session}
    {calls : List Call} {verdict : Option Verdict}
    (closed : Closed limit number session calls final verdict)
    : ∃ answer rest, calls = .wait answer :: rest ∧ ∀ other, .wait other ∉ rest := by
  cases closed with
  | refused => exact ⟨_, [], rfl, fun _ => List.not_mem_nil⟩
  | gathered _ _ =>
      refine ⟨_, _, rfl, ?_⟩
      intro other member
      rcases List.mem_append.mp member with out | err
      · exact Call.wait_not_mem_reads _ _ _ _ out
      · exact Call.wait_not_mem_reads _ _ _ _ err

/-- When the end was waited for, the steps had made the calls before the wait, all of them were
satisfied, and the last one closes. Witness: neither the steps nor the reads at the end wait, so
there is one wait, and the calls are parted at it.
-/
theorem playCalls_at_wait {σ : Type} [Peer σ] {limit : Option Duration} {steps : List Step}
    {x : Exchange σ} {before after : List Call} {answer : Except PeerError (Option Int)}
    (made : playCalls limit steps x = before ++ .wait answer :: after)
    : (x.takeSteps limit 1 steps).verdict = none
        ∧ Step.closesLast steps = true
        ∧ x.stepsCalls limit 1 steps = before
        ∧ (x.takeSteps limit 1 steps).exchange.closeCalls limit steps.length
          = .wait answer :: after := by
  have unwaited := (x.stepsCalls_taken limit 1 steps).2.wait_not_mem answer
  have member : .wait answer ∈ playCalls limit steps x := by
    rw [made]
    exact List.mem_append_right _ List.mem_cons_self
  cases came : (x.takeSteps limit 1 steps).verdict with
  | some verdict =>
      rw [playCalls_of_stopped came] at member
      exact absurd member unwaited
  | none =>
      cases closes : Step.closesLast steps with
      | false =>
          rw [playCalls_of_open came closes] at member
          exact absurd member unwaited
      | true =>
          obtain ⟨_, _, atEnd, once⟩ := ((x.takeSteps limit 1 steps).exchange.closeCalls_closed
            limit steps.length).2.waits_once
          rw [playCalls_of_closed came closes, atEnd,
            List.append_cons_inj_of_notMem unwaited (once answer)] at made
          obtain ⟨begins, waits, rests⟩ := made
          exact ⟨rfl, rfl, begins, by rw [atEnd, waits, rests]⟩

-----------------------------------------------------------------------------------------
-- What the wait settles
-----------------------------------------------------------------------------------------

/-- How a play is over when the wait was answered with a code in this session and these calls came
after it: they change nothing but what is pending, and they are all reads of stdout until one of
them brings no chunk, and then all reads of stderr until one of them does not.
-/
structure SettledByWait (limit : Option Duration) (begun : Session) (code : Option Int)
    (after : List Call) (verdict : Verdict) (final : Session) : Prop where
  passes : verdict = .passed code
  exits : final.exitCode = code
  logs : final.log = (begun.noteExit code).log
  keeps : ∀ stream, final.pending stream = begun.pending stream ++ received stream after
  drains
    : ∃ out err,
        after
            = Call.reads .stdout (some (Exchange.graceOf limit)) out
              ++ Call.reads .stderr (some (Exchange.graceOf limit)) err
          ∧ Exhausts out
          ∧ Exhausts err

/-- Two plays that cannot be told apart by their verdicts, their logs, their exit codes and the
texts that were sent.
-/
structure Alike (calls others : List Call) (first second : Verdict × Session) : Prop where
  verdict : second.1 = first.1
  log : second.2.log = first.2.log
  exitCode : second.2.exitCode = first.2.exitCode
  sent : written others = written calls

/-- An end that was waited for with success is settled by the wait, by cases on the rules. -/
theorem Closed.settled {limit : Option Duration} {number : Nat} {session final : Session}
    {after : List Call} {code : Option Int} {verdict : Option Verdict}
    (closed : Closed limit number session (.wait (.ok code) :: after) final verdict)
    : SettledByWait limit session code after (verdict.getD (.passed final.exitCode)) final := by
  have leaves := closed.leaves
  cases closed with
  | @gathered _ middle _ out err stdout stderr =>
      have exited : final.exitCode = code := by
        rw [stderr.exitCode_eq, stdout.exitCode_eq]
        rfl
      exact {
        passes := congrArg Verdict.passed exited
        exits := exited
        logs := by rw [stderr.log_eq, stdout.log_eq]
        keeps := leaves
        drains := ⟨out, err, rfl, stdout.exhausts, stderr.exhausts⟩
      }

variable {σ τ : Type} [Peer σ] [Peer τ]

/-- A play in which the wait was answered with a code is settled by it. -/
theorem playSteps_settled {limit : Option Duration} {steps : List Step} {x : Exchange σ}
    {before after : List Call} {code : Option Int}
    (made : playCalls limit steps x = before ++ .wait (.ok code) :: after)
    : SettledByWait limit (x.takeSteps limit 1 steps).exchange.session code after
        (playSteps limit steps x).1 (playSteps limit steps x).2.session := by
  obtain ⟨satisfied, closes, -, atEnd⟩ := playCalls_at_wait made
  have closed := ((x.takeSteps limit 1 steps).exchange.closeCalls_closed limit steps.length).2
  rw [atEnd] at closed
  rw [playSteps_of_closed satisfied closes]
  exact closed.settled

/-- By the wait every input was sent. -/
theorem written_at_wait {limit : Option Duration} {steps : List Step} {x : Exchange σ}
    {before after : List Call} {answer : Except PeerError (Option Int)}
    (made : playCalls limit steps x = before ++ .wait answer :: after)
    : written (playCalls limit steps x) = steps.filterMap Step.input := by
  obtain ⟨satisfied, closes, -, -⟩ := playCalls_at_wait made
  have closed := ((x.takeSteps limit 1 steps).exchange.closeCalls_closed limit steps.length).2
  rw [playCalls_of_closed satisfied closes, written_append, closed.written_eq, List.append_nil]
  exact (x.stepsCalls_taken limit 1 steps).2.written_eq satisfied

/-- A peer that answers a wait with a code is waited for so at the end of a play too. -/
theorem Closed.calls_of_waited {limit : Option Duration} {number : Nat}
    {session final : Session} {calls : List Call} {verdict : Option Verdict}
    {code : Option Int} (closed : Closed limit number session calls final verdict)
    {peer waited last : σ} (answered : Answered peer calls last)
    (waits : Answered peer [.wait (.ok code)] waited)
    : ∃ later, calls = .wait (.ok code) :: later ∧ Answered waited later last := by
  cases waits with
  | wait made rest =>
      cases rest.eq_of_nil
      cases closed with
      | refused =>
          cases answered with
          | wait again _ => cases made.symm.trans again
      | gathered _ _ =>
          cases answered with
          | wait again later =>
              cases made.symm.trans again
              exact ⟨_, rfl, later⟩

/-- A peer that answers as another did up to the wait is waited for in the same session, and from
there on it gives its own answers. Witness: the rules leave the steps no choice once the answers
are known.
-/
theorem playCalls_alike {limit : Option Duration} {steps : List Step} {session : Session}
    {peer : σ} {other waited : τ} {before after : List Call} {code : Option Int}
    (made : playCalls limit steps ⟨session, peer⟩ = before ++ .wait (.ok code) :: after)
    (same : Answered other (before ++ [.wait (.ok code)]) waited)
    : ∃ later,
        playCalls limit steps ⟨session, other⟩ = before ++ .wait (.ok code) :: later
          ∧ Answered waited later (playSteps limit steps ⟨session, other⟩).2.peer
          ∧ (Exchange.takeSteps limit 1 ⟨session, other⟩ steps).exchange.session
            = (Exchange.takeSteps limit 1 ⟨session, peer⟩ steps).exchange.session := by
  obtain ⟨satisfied, closes, begins, -⟩ := playCalls_at_wait made
  obtain ⟨middle, first, waits⟩ := same.split
  -- The rules do not mention the peer: what the steps did with one they do with the other.
  have taken := (Exchange.stepsCalls_taken limit 1 ⟨session, peer⟩ steps).2
  rw [begins, satisfied] at taken
  have turn := taken.determines first
  have calls := StepsTaken.calls_eq (x := ⟨session, other⟩) taken first
  have satisfiedToo : (Exchange.takeSteps limit 1 ⟨session, other⟩ steps).verdict = none := by
    rw [turn]
  obtain ⟨answered, closed⟩ := Exchange.closeCalls_closed limit steps.length
    (Exchange.takeSteps limit 1 ⟨session, other⟩ steps).exchange
  rw [turn] at answered closed
  obtain ⟨later, atEnd, rest⟩ := closed.calls_of_waited answered waits
  refine ⟨later, ?_, ?_, ?_⟩
  · rw [playCalls_of_closed satisfiedToo closes, calls, turn, atEnd]
  · rw [playSteps_of_closed satisfiedToo closes, turn]
    exact rest
  · rw [turn]

/-- Nothing that happens after the wait can change how a play comes out, and nothing that is said
then is lost: with two peers that answer alike up to the wait, and then each as it likes, the
plays are alike, and each of them has gathered what its own peer still said.
-/
theorem play_settled_by_wait {limit : Option Duration} {scenario : Scenario}
    {session : Session} {peer : σ} {other waited : τ} {before after : List Call}
    {code : Option Int}
    (made : playCalls limit scenario.steps ⟨session, peer⟩ = before ++ .wait (.ok code) :: after)
    (same : Answered other (before ++ [.wait (.ok code)]) waited)
    : let begun := (Exchange.takeSteps limit 1 ⟨session, peer⟩ scenario.steps).exchange.session
      let first := play limit scenario ⟨session, peer⟩
      let second := play limit scenario ⟨session, other⟩
      ∃ later,
        playCalls limit scenario.steps ⟨session, other⟩ = before ++ .wait (.ok code) :: later
          ∧ Answered waited later second.2.peer
          ∧ SettledByWait limit begun code after first.1 first.2.session
          ∧ SettledByWait limit begun code later second.1 second.2.session
          ∧ Alike (playCalls limit scenario.steps ⟨session, peer⟩)
              (playCalls limit scenario.steps ⟨session, other⟩) (first.1, first.2.session)
              (second.1, second.2.session) := by
  intro begun first second
  obtain ⟨later, madeToo, answered, alike⟩ := playCalls_alike made same
  have settled := playSteps_settled made
  have settledToo := playSteps_settled madeToo
  rw [alike] at settledToo
  refine ⟨later, madeToo, answered, settled, settledToo, ?_⟩
  exact {
    verdict := settledToo.passes.trans settled.passes.symm
    log := settledToo.logs.trans settled.logs.symm
    exitCode := settledToo.exits.trans settled.exits.symm
    sent := (written_at_wait madeToo).trans (written_at_wait made).symm
  }

/-- Two peers answer alike up to the wait. Then stdout of the first is silent and its stderr still
says something; the second still says something on both, and its stdout breaks. Both plays pass,
and each keeps what was still said.
-/
theorem play_settled_by_wait_of_broken_stream
    : let fault : Fault := .described .other (some "gone")
      let scenario : Scenario :=
        { name := "late",
          steps := [{ input := some "go\n", output := some "a\n", closes := true }] }
      let peer : Canned :=
        { stdout := [.chunk [97, 10], .silence none], stderr := [.chunk [98]],
          exitCode := some 3 }
      let other : Canned :=
        { stdout := [.chunk [97, 10], .chunk [99], .fault fault], stderr := [.chunk [100]],
          exitCode := some 3 }
      let before : List Call :=
        [.send "go\n" (.ok ()), .receive .stdout none (.chunk [97, 10])]
      let second := play none scenario ⟨{}, other⟩
      ∃ after waited,
        playCalls none scenario.steps ⟨{}, peer⟩ = before ++ .wait (.ok (some 3)) :: after
          ∧ Answered other (before ++ [.wait (.ok (some 3))]) waited
          ∧ second.1 = .passed (some 3)
          ∧ second.1 = (play none scenario ⟨{}, peer⟩).1
          ∧ second.2.session.log = (play none scenario ⟨{}, peer⟩).2.session.log := by
  intro fault scenario peer other before second
  have made : playCalls none scenario.steps ⟨{}, peer⟩ = _ :=
    Played.calls_eq
      (.closed
        (.satisfied
          (.sent rfl (.text (.chunk ⟨by decide, by decide⟩ (.met (by decide))))) .done)
        rfl (.gathered .failed (.chunk .ended)))
      (.send rfl (.receive rfl (.wait rfl (.receive rfl (.receive rfl (.receive rfl (.nil _)))))))
  have same : Answered other (before ++ [.wait (.ok (some 3))]) _ :=
    .send rfl (.receive rfl (.wait rfl (.nil _)))
  obtain ⟨later, -, -, -, settled, alike⟩ := play_settled_by_wait made same
  exact ⟨_, _, made, same, settled.passes, alike.verdict, alike.log⟩

end Dialogue
