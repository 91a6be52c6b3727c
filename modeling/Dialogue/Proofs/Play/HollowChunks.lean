import Dialogue.Proofs.Play.AfterWait

/-!
Chunks without octets. An expected text does not notice them, and neither does the end of a play:
left out, they change nothing. A step that asks for any output takes the next chunk as it is, and
one without octets satisfies it with nothing; but for that, they make no difference at all.
-/

namespace Dialogue

-----------------------------------------------------------------------------------------
-- Hollow chunks, and peers that leave them out
-----------------------------------------------------------------------------------------

/-- Whether an answer is a hollow chunk: one without octets. -/
def Reception.isHollow : Reception → Bool
  | .chunk [] => true
  | _ => false

/-- Whether a call brought a hollow chunk. -/
def Call.isHollow : Call → Bool
  | .receive _ _ answer => answer.isHollow
  | _ => false

/-- The calls that brought no hollow chunk, in order. -/
def solidCalls (calls : List Call) : List Call :=
  calls.filter (!·.isHollow)

/-- The second of two peers leaves out the hollow chunks of the first: where the first has one, the
second has what comes behind it, and everything else they answer alike.
-/
structure LeavesOutHollow {σ τ : Type} [Peer σ] [Peer τ] (related : σ → τ → Prop) : Prop where
  send
    : ∀ {peer next : σ} {other : τ} {text : String} {answer : Except PeerError Unit},
        related peer other
        → Peer.send peer text = (answer, next)
        → ∃ after, Peer.send other text = (answer, after) ∧ related next after
  wait
    : ∀ {peer next : σ} {other : τ} {answer : Except PeerError (Option Int)},
        related peer other
        → Peer.wait peer = (answer, next)
        → ∃ after, Peer.wait other = (answer, after) ∧ related next after
  receive
    : ∀ {peer next : σ} {other : τ} {stream : Stream} {limit : Option Duration}
        {answer : Reception},
        related peer other
        → Peer.receive peer stream limit = (answer, next)
        → answer.isHollow = false
        → ∃ after, Peer.receive other stream limit = (answer, after) ∧ related next after
  hollow
    : ∀ {peer next : σ} {other : τ} {stream : Stream} {limit : Option Duration}
        {answer : Reception},
        related peer other
        → Peer.receive peer stream limit = (answer, next)
        → answer.isHollow = true
        → related next other

/-- Only a chunk without octets is hollow. -/
theorem Reception.isHollow_iff {answer : Reception}
    : answer.isHollow = true ↔ answer = .chunk [] := by
  cases answer with
  | chunk octets => cases octets <;> simp [isHollow]
  | ended => simp [isHollow]
  | failed _ => simp [isHollow]

/-- Calls one after the other are solid one after the other. -/
theorem solidCalls_append (calls more : List Call)
    : solidCalls (calls ++ more) = solidCalls calls ++ solidCalls more :=
  List.filter_append ..

/-- Reads of a stream are solid where their answers are. -/
theorem solidCalls_reads (stream : Stream) (limit : Option Duration) (answers : List Reception)
    : solidCalls (Call.reads stream limit answers)
      = Call.reads stream limit (answers.filter (!·.isHollow)) :=
  List.filter_map ..

/-- A read that brought a hollow chunk is no solid call. -/
theorem solidCalls_of_hollow {stream : Stream} {limit : Option Duration} {answer : Reception}
    (hollow : answer.isHollow = true) (calls : List Call)
    : solidCalls (.receive stream limit answer :: calls) = solidCalls calls :=
  List.filter_cons_of_neg (by simp [Call.isHollow, hollow])

/-- Any other read is a solid call. -/
theorem solidCalls_of_full {stream : Stream} {limit : Option Duration} {answer : Reception}
    (full : answer.isHollow = false) (calls : List Call)
    : solidCalls (.receive stream limit answer :: calls)
      = .receive stream limit answer :: solidCalls calls :=
  List.filter_cons_of_pos (by simp [Call.isHollow, full])

/-- The solid calls send what all of them send: no read sends anything. -/
theorem written_solidCalls (calls : List Call)
    : written (solidCalls calls) = written calls :=
  written_filter (fun _ _ => rfl) calls

/-- A peer that leaves out hollow chunks answers the solid calls, by induction on the calls. -/
theorem Answered.solid {σ τ : Type} [Peer σ] [Peer τ] {related : σ → τ → Prop}
    (leaves : LeavesOutHollow related) {peer last : σ} {other : τ} {calls : List Call}
    (answered : Answered peer calls last) (alike : related peer other)
    : ∃ after, Answered other (solidCalls calls) after ∧ related last after := by
  induction answered generalizing other with
  | nil _ => exact ⟨other, .nil other, alike⟩
  | send made _ ih =>
      obtain ⟨next, sent, alike⟩ := leaves.send alike made
      obtain ⟨after, rest, alike⟩ := ih alike
      exact ⟨after, .send sent rest, alike⟩
  | @receive _ _ _ stream limit answer calls made _ ih =>
      cases hollow : answer.isHollow with
      | true =>
          rw [solidCalls_of_hollow hollow]
          exact ih (leaves.hollow alike made hollow)
      | false =>
          obtain ⟨next, came, alike⟩ := leaves.receive alike made hollow
          obtain ⟨after, rest, alike⟩ := ih alike
          rw [solidCalls_of_full hollow]
          exact ⟨after, .receive came rest, alike⟩
  | wait made _ ih =>
      obtain ⟨next, waited, alike⟩ := leaves.wait alike made
      obtain ⟨after, rest, alike⟩ := ih alike
      exact ⟨after, .wait waited rest, alike⟩

-----------------------------------------------------------------------------------------
-- Prepared answers
-----------------------------------------------------------------------------------------

/-- Whether a prepared answer is a hollow chunk. -/
def Prepared.isHollow : Prepared → Bool
  | .chunk [] => true
  | _ => false

namespace Canned

/-- A peer with the same prepared answers but the hollow chunks. -/
def solid (peer : Canned) : Canned :=
  { peer with
    stdout := peer.stdout.filter (!·.isHollow), stderr := peer.stderr.filter (!·.isHollow) }

/-- A prepared answer gives a hollow chunk just if it is one. -/
theorem isHollow_answer (stream : Stream) (limit : Option Duration) (prepared : Prepared)
    : (answer stream limit prepared).isHollow = prepared.isHollow := by
  cases prepared with
  | chunk octets => cases octets <;> rfl
  | silence _ => rfl
  | fault _ => rfl
  | ended => rfl

/-- Without hollow chunks a stream has the others, in order. -/
theorem queue_solid (peer : Canned) (stream : Stream)
    : peer.solid.queue stream = (peer.queue stream).filter (!·.isHollow) := by
  cases stream <;> rfl

/-- Hollow chunks may be left out before or after a queue is set. -/
theorem solid_setQueue (peer : Canned) (stream : Stream) (answers : List Prepared)
    : (peer.setQueue stream answers).solid
      = peer.solid.setQueue stream (answers.filter (!·.isHollow)) := by
  cases stream <;> rfl

/-- A text is taken the same without hollow chunks. -/
theorem send_solid (peer : Canned) (text : String)
    : Peer.send peer.solid text
      = ((Peer.send peer text).1, (Peer.send peer text).2.solid) := by
  rcases refusal : peer.sendFault with _ | ⟨count, fault⟩
  · simp only [Peer.send, send, solid, refusal]
  · by_cases now : peer.sent = count <;>
      simp only [Peer.send, send, solid, refusal, now, if_true, if_false]

section Receive

variable {peer next : Canned} {stream : Stream} {limit : Option Duration} {answer : Reception}

/-- A read that brings no hollow chunk is answered the same without them. -/
theorem receive_solid (made : peer.receive stream limit = (answer, next))
    (full : answer.isHollow = false)
    : peer.solid.receive stream limit = (answer, next.solid) := by
  unfold receive at made ⊢
  rw [queue_solid]
  cases prepared : peer.queue stream with
  | nil =>
      rw [prepared] at made
      cases made
      rfl
  | cons first rest =>
      rw [prepared] at made
      cases made
      rw [isHollow_answer] at full
      rw [List.filter_cons_of_pos (by simp [full]), solid_setQueue]

/-- A read that brings a hollow chunk takes nothing that is left without them. -/
theorem solid_eq_of_receive (made : peer.receive stream limit = (answer, next))
    (hollow : answer.isHollow = true)
    : next.solid = peer.solid := by
  unfold receive at made
  cases prepared : peer.queue stream with
  | nil =>
      rw [prepared] at made
      cases made
      rfl
  | cons first rest =>
      rw [prepared] at made
      cases made
      rw [isHollow_answer] at hollow
      have same : rest.filter (!·.isHollow) = peer.solid.queue stream := by
        rw [queue_solid, prepared, List.filter_cons_of_neg (by simp [hollow])]
      rw [solid_setQueue, same]
      cases stream <;> rfl

end Receive

/-- Without hollow chunks, prepared answers leave them out and nothing else. -/
theorem solid_leavesOut
    : LeavesOutHollow fun peer other : Canned => other = peer.solid where
  send := by
    rintro peer next _ text answer rfl made
    exact ⟨next.solid, by rw [send_solid, made], rfl⟩
  wait := by
    rintro peer next _ answer rfl made
    cases made
    exact ⟨_, rfl, rfl⟩
  receive := by
    rintro peer next _ stream limit answer rfl made full
    exact ⟨next.solid, receive_solid made full, rfl⟩
  hollow := by
    rintro peer next _ stream limit answer rfl made hollow
    exact (solid_eq_of_receive made hollow).symm

end Canned

-----------------------------------------------------------------------------------------
-- The rules without hollow chunks
-----------------------------------------------------------------------------------------

section Rules

variable {limit : Option Duration} {number : Nat} {stream : Stream} {session final : Session}

/-- No octets behind what is pending change nothing. -/
@[simp]
theorem Session.append_nil (session : Session) (stream : Stream)
    : session.append stream [] = session := by
  unfold append
  rw [List.append_nil]
  cases stream <;> rfl

/-- A text is awaited alike without hollow chunks, by induction on the reads. -/
theorem TextAwaited.solid {expected : String} {answers : List Reception}
    {verdict : Option Verdict}
    (awaited : TextAwaited number stream expected session answers final verdict)
    : TextAwaited number stream expected session (answers.filter (!·.isHollow)) final verdict := by
  induction awaited with
  | met begins => exact .met begins
  | apart unmet differs => exact .apart unmet differs
  | @chunk _ _ octets _ _ undecided _ ih =>
      cases octets with
      | nil =>
          rw [Session.append_nil] at ih
          exact ih
      | cons octet octets => exact .chunk undecided ih
  | ended undecided => exact .ended undecided
  | silent undecided => exact .silent undecided
  | failed undecided loud => exact .failed undecided loud

/-- A stream is gathered alike without hollow chunks, by induction on the reads. -/
theorem Gathered.solid {answers : List Reception}
    (came : Gathered stream session answers final)
    : Gathered stream session (answers.filter (!·.isHollow)) final := by
  induction came with
  | @chunk _ _ octets _ _ ih =>
      cases octets with
      | nil =>
          rw [Session.append_nil] at ih
          exact ih
      | cons octet octets => exact .chunk ih
  | ended => exact .ended
  | failed => exact .failed

/-- Any output is awaited alike if no chunk that comes is hollow. -/
theorem OutputAwaited.solid {answers : List Reception} {verdict : Option Verdict}
    (awaited : OutputAwaited number stream session answers final verdict)
    (filled : .chunk [] ∉ answers)
    : OutputAwaited number stream session (answers.filter (!·.isHollow)) final verdict := by
  -- One read is made at most, so a hollow answer left out would leave no read to satisfy the wish.
  have kept : answers.filter (!·.isHollow) = answers := by
    refine List.filter_eq_self.mpr fun answer member => ?_
    have full : answer.isHollow ≠ true := by
      intro hollow
      rw [Reception.isHollow_iff] at hollow
      exact filled (hollow ▸ member)
    simpa using full
  rw [kept]
  exact awaited

/-- A hollow chunk satisfies the wish for any output, and nothing else does without an octet. By
cases on the rules.
-/
theorem OutputAwaited.nothing_iff {answers : List Reception} {verdict : Option Verdict}
    (awaited : OutputAwaited number stream session answers final verdict)
    : (verdict = none ∧ session.pending stream ++ gathered answers = [])
      ↔ .chunk [] ∈ answers := by
  cases awaited with
  | pending some => simp [some]
  | chunk empty => simp [empty, eq_comm]
  | ended _ => simp
  | silent _ => simp
  | failed _ _ => simp

/-- An expectation is awaited alike without hollow chunks, unless one comes where any output will
do. By cases on the expectation.
-/
theorem ExpectationAwaited.solid {expectation : Option Expectation} {calls : List Call}
    {verdict : Option Verdict}
    (awaited : ExpectationAwaited limit number session expectation calls final verdict)
    (filled
      : ∀ stream,
          expectation = some ⟨stream, none⟩ → .receive stream limit (.chunk []) ∉ calls)
    : ExpectationAwaited limit number session expectation (solidCalls calls) final verdict := by
  cases awaited with
  | nothing => exact .nothing
  | text awaited =>
      rw [solidCalls_reads]
      exact .text awaited.solid
  | @output stream _ _ _ awaited =>
      rw [solidCalls_reads]
      refine .output (awaited.solid ?_)
      intro member
      exact filled stream rfl (List.mem_map_of_mem member)

/-- A step is taken alike without hollow chunks, unless one comes where any output will do. By cases
on the rules.
-/
theorem StepTaken.solid {step : Step} {calls : List Call} {verdict : Option Verdict}
    (taken : StepTaken limit number step session calls final verdict)
    (filled
      : ∀ stream,
          step.expectation = some ⟨stream, none⟩ → .receive stream limit (.chunk []) ∉ calls)
    : StepTaken limit number step session (solidCalls calls) final verdict := by
  cases taken with
  | quiet input awaited => exact .quiet input (awaited.solid filled)
  | @sent text calls _ _ input awaited =>
      have rest : ∀ stream, step.expectation = some ⟨stream, none⟩
          → .receive stream limit (.chunk []) ∉ calls := by
        intro stream expects member
        exact filled stream expects (List.mem_cons_of_mem _ member)
      exact .sent input (awaited.solid rest)
  | refused input => exact .refused input

/-- The end is waited for alike without hollow chunks, by cases on the rules. -/
theorem Closed.solid {calls : List Call} {verdict : Option Verdict}
    (closed : Closed limit number session calls final verdict)
    : Closed limit number session (solidCalls calls) final verdict := by
  cases closed with
  | refused => exact .refused
  | gathered stdout stderr =>
      change Closed limit number session (.wait _ :: solidCalls (_ ++ _)) final none
      rw [solidCalls_append, solidCalls_reads, solidCalls_reads]
      exact .gathered stdout.solid stderr.solid

/-- What asks for any output is satisfied with nothing when a hollow chunk comes, and only then. -/
theorem ExpectationAwaited.nothing_iff {calls : List Call} {verdict : Option Verdict}
    (awaited : ExpectationAwaited limit number session (some ⟨stream, none⟩) calls final verdict)
    : (verdict = none ∧ session.come stream calls = [])
      ↔ .receive stream limit (.chunk []) ∈ calls := by
  cases awaited with
  | @output _ answers _ _ awaited =>
      have member : .receive stream limit (.chunk []) ∈ Call.reads stream limit answers
          ↔ .chunk [] ∈ answers := by
        simp [Call.reads]
      rw [member, ← awaited.nothing_iff, Session.come, received_reads]

/-- A step that asks for any output is satisfied with nothing when a hollow chunk comes, and only
then. By cases on the rules.
-/
theorem StepTaken.nothing_iff {step : Step} {calls : List Call} {verdict : Option Verdict}
    (taken : StepTaken limit number step session calls final verdict)
    (expects : step.expectation = some ⟨stream, none⟩)
    : (verdict = none ∧ session.come stream calls = [])
      ↔ .receive stream limit (.chunk []) ∈ calls := by
  cases taken with
  | quiet _ awaited =>
      rw [expects] at awaited
      have nothing := awaited.nothing_iff
      rwa [Session.come, Session.pending_noteComment] at nothing
  | sent _ awaited =>
      rw [expects] at awaited
      have nothing := awaited.nothing_iff
      rw [Session.come, Session.pending_noteSent, Session.pending_noteComment] at nothing
      simpa [Session.come] using nothing
  | refused _ => simp

end Rules

-----------------------------------------------------------------------------------------
-- Plays without hollow chunks
-----------------------------------------------------------------------------------------

/-- A step that asks for any output takes all that has come. -/
theorem Step.takes_of_output {step : Step} {stream : Stream}
    (expects : step.expectation = some ⟨stream, none⟩) (come : Octets)
    : step.takes stream come = come := by
  rw [Step.takes, expects]
  exact if_pos rfl

variable {σ τ : Type} [Peer σ] [Peer τ]

namespace Exchange

/-- Each step that asks for any output and is satisfied takes some: an octet at least. -/
def TakesSome (limit : Option Duration) (number : Nat) (x : Exchange σ) : List Step → Prop
  | [] => True
  | step :: rest =>
    let turn := x.takeStep limit number step
    turn.verdict = none
      → (∀ stream,
            step.expectation = some ⟨stream, none⟩
            → step.takes stream (x.session.come stream (x.stepCalls limit number step)) ≠ [])
          ∧ turn.exchange.TakesSome limit (number + 1) rest

/-- No step that asks for any output is answered with a hollow chunk. -/
def Filled (limit : Option Duration) (number : Nat) (x : Exchange σ) : List Step → Prop
  | [] => True
  | step :: rest =>
    let turn := x.takeStep limit number step
    (∀ stream,
        step.expectation = some ⟨stream, none⟩
        → .receive stream limit (.chunk []) ∉ x.stepCalls limit number step)
      ∧ (turn.verdict = none → turn.exchange.Filled limit (number + 1) rest)

/-- The steps that ask for any output all get some just if none of them is answered with a hollow
chunk, by induction on the steps.
-/
theorem takesSome_iff_filled (limit : Option Duration) (number : Nat) (x : Exchange σ)
    (steps : List Step)
    : x.TakesSome limit number steps ↔ x.Filled limit number steps := by
  induction steps generalizing number x with
  | nil => exact Iff.rfl
  | cons step rest ih =>
      have taken := (x.stepCalls_taken limit number step).2
      constructor
      · intro takes
        refine ⟨?_, fun came => (ih _ _).mp (takes came).2⟩
        intro stream expects member
        obtain ⟨came, nothing⟩ := (taken.nothing_iff expects).mpr member
        have some := (takes came).1 stream expects
        rw [Step.takes_of_output expects] at some
        exact some nothing
      · rintro ⟨filled, later⟩ came
        refine ⟨?_, (ih _ _).mpr (later came)⟩
        intro stream expects nothing
        rw [Step.takes_of_output expects] at nothing
        exact filled stream expects ((taken.nothing_iff expects).mp ⟨came, nothing⟩)

/-- Steps that are not answered with hollow chunks where they ask for any output are taken alike
without them, by induction on the steps.
-/
theorem Filled.taken {limit : Option Duration} {number : Nat} {x : Exchange σ}
    {steps : List Step} (filled : x.Filled limit number steps)
    : StepsTaken limit number steps x.session (solidCalls (x.stepsCalls limit number steps))
        (x.takeSteps limit number steps).exchange.session
        (x.takeSteps limit number steps).verdict := by
  induction steps generalizing number x with
  | nil =>
      rw [stepsCalls_nil]
      exact .done
  | cons step rest ih =>
      obtain ⟨head, later⟩ := filled
      have taken := (x.stepCalls_taken limit number step).2.solid head
      cases came : (x.takeStep limit number step).verdict with
      | some verdict =>
          rw [came] at taken
          rw [stepsCalls_cons_some came, takeSteps_cons_some came, came]
          exact .stopped taken
      | none =>
          rw [came] at taken
          rw [stepsCalls_cons_none came, takeSteps_cons_none came, solidCalls_append]
          exact .satisfied taken (ih (later came))

/-- Plays of such steps go alike without hollow chunks: what comes at their end is gathered,
whatever it is.
-/
theorem Filled.played {limit : Option Duration} {x : Exchange σ} {steps : List Step}
    (filled : x.Filled limit 1 steps)
    : Played limit steps x.session (solidCalls (playCalls limit steps x))
        (playSteps limit steps x).2.session (playSteps limit steps x).1 := by
  have taken := filled.taken
  cases came : (x.takeSteps limit 1 steps).verdict with
  | some verdict =>
      rw [came] at taken
      rw [playCalls_of_stopped came, playSteps_of_stopped came]
      exact .stopped taken
  | none =>
      rw [came] at taken
      cases closes : Step.closesLast steps with
      | false =>
          rw [playCalls_of_open came closes, playSteps_of_open came closes]
          exact .passed taken closes
      | true =>
          have closed := ((x.takeSteps limit 1 steps).exchange.closeCalls_closed limit
            steps.length).2.solid
          rw [playCalls_of_closed came closes, playSteps_of_closed came closes,
            solidCalls_append]
          exact .closed taken closes closed

end Exchange

/-- Two plays of which the second left out the hollow chunks and nothing else: they come out alike,
with all that is pending and logged, and the second made the solid calls of the first.
-/
structure AlikeButHollow (calls others : List Call) (first second : Verdict × Session)
    : Prop where
  same : second = first
  solid : others = solidCalls calls
  sent : written others = written calls

/-- The steps of a play that ask for any output all get some just if none of them is answered with a
hollow chunk; and then hollow chunks, wherever they come, make no difference: without them the play
goes alike.
-/
theorem play_without_hollow_chunks {related : σ → τ → Prop}
    (leaves : LeavesOutHollow related) {peer : σ} {other : τ} (alike : related peer other)
    (limit : Option Duration) (scenario : Scenario) (session : Session)
    : let x : Exchange σ := ⟨session, peer⟩
      let y : Exchange τ := ⟨session, other⟩
      let first := play limit scenario x
      let second := play limit scenario y
      (x.TakesSome limit 1 scenario.steps ↔ x.Filled limit 1 scenario.steps)
        ∧ (x.TakesSome limit 1 scenario.steps
            → AlikeButHollow (playCalls limit scenario.steps x)
                  (playCalls limit scenario.steps y) (first.1, first.2.session)
                  (second.1, second.2.session)
                ∧ related first.2.peer second.2.peer) := by
  intro x y first second
  refine ⟨x.takesSome_iff_filled limit 1 scenario.steps, fun takes => ?_⟩
  have played := ((x.takesSome_iff_filled limit 1 scenario.steps).mp takes).played
  obtain ⟨after, answered, related⟩ :=
    (playCalls_answered limit scenario.steps x).solid leaves alike
  have calls : playCalls limit scenario.steps y = _ := Played.calls_eq (x := y) played answered
  have turn : second = (first.1, ⟨first.2.session, after⟩) := played.determines answered
  rw [turn]
  exact ⟨{
    same := rfl
    solid := calls
    sent := by rw [calls, written_solidCalls]
  }, related⟩

/-- Hollow chunks come before, between and after the octets of the text that is expected, and behind
those that are taken on stderr; each read that they answer is one more, and that is all.
-/
theorem play_without_hollow_chunks_of_mixed
    : let scenario : Scenario :=
        { name := "mixed",
          steps := [{ input := some "go\n", output := some "a\n" },
            { onStderr := true, closes := true }] }
      let peer : Canned :=
        { stdout := [.chunk [], .chunk [97], .chunk [], .chunk [10], .chunk []],
          stderr := [.chunk [98], .chunk []] }
      let x : Exchange Canned := ⟨{}, peer⟩
      let y : Exchange Canned := ⟨{}, peer.solid⟩
      x.TakesSome none 1 scenario.steps
        ∧ AlikeButHollow (playCalls none scenario.steps x) (playCalls none scenario.steps y)
            ((play none scenario x).1, (play none scenario x).2.session)
            ((play none scenario y).1, (play none scenario y).2.session) := by
  intro scenario peer x y
  let rest : Canned :=
    { stdout := [.chunk []], stderr := [.chunk [98], .chunk []], sent := 1 }
  obtain ⟨middle, empty, text⟩
      : ∃ middle : Session,
          middle.pending .stderr = []
            ∧ x.takeStep none 1 { input := some "go\n", output := some "a\n" }
              = ⟨⟨middle, rest⟩, none⟩ :=
    ⟨_, rfl, StepTaken.determines
      (.sent rfl (.text (.chunk ⟨by decide, by decide⟩ (.chunk ⟨by decide, by decide⟩
        (.chunk ⟨by decide, by decide⟩ (.chunk ⟨by decide, by decide⟩ (.met (by decide))))))))
      (.send rfl (.receive rfl (.receive rfl (.receive rfl (.receive rfl (.nil _))))))⟩
  have takes : x.TakesSome none 1 scenario.steps := by
    refine fun _ => ⟨fun stream expects => (by cases expects), ?_⟩
    rw [text]
    refine fun _ => ⟨fun stream expects => ?_, trivial⟩
    cases expects
    have output : Exchange.stepCalls none 2 { onStderr := true, closes := true } ⟨middle, rest⟩
        = [.receive .stderr none (.chunk [98])] :=
      StepTaken.calls_eq (.quiet rfl (.output (.chunk empty))) (.receive rfl (.nil _))
    rw [output, Session.come, empty]
    decide
  exact ⟨takes, ((play_without_hollow_chunks Canned.solid_leavesOut rfl none scenario {}).2
    takes).1⟩

/-- On stderr a hollow chunk comes and no octet ever, and the step that asks for any output there is
satisfied; without the chunk it is not.
-/
theorem play_passes_with_hollow_chunk
    : let scenario : Scenario :=
        { name := "hollow",
          steps := [{ input := some "boom\n", onStderr := true, closes := true }] }
      let peer : Canned := { stderr := [.chunk []] }
      let x : Exchange Canned := ⟨{}, peer⟩
      (play none scenario x).1 = .passed none
        ∧ received .stderr (playCalls none scenario.steps x) = []
        ∧ (play none scenario ⟨{}, peer.solid⟩).1 = .noOutput 1 .stderr := by
  intro scenario peer x
  have made : playCalls none scenario.steps x = _ :=
    Played.calls_eq
      (.closed (.satisfied (.sent rfl (.output (.chunk rfl))) .done) rfl (.gathered .ended .ended))
      (.send rfl (.receive rfl (.wait rfl (.receive rfl (.receive rfl (.nil _))))))
  refine ⟨(playSteps_settled made).passes, ?_, ?_⟩
  · rw [made]
    rfl
  · exact congrArg Prod.fst (Played.determines
      (.stopped (.stopped (.sent rfl (.output (.ended rfl)))))
      (.send rfl (.receive rfl (.nil _))))

end Dialogue
