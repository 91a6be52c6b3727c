import Dialogue.Proofs.Play.AfterWait

/-!
The two streams do not meet. Where no step expects anything on a stream, neither what is pending
there nor what a peer answers to reads of it makes a difference to a play: the verdict, the other
calls, the log and the other stream are the same, whether the play passes or fails.
-/

namespace Dialogue

-----------------------------------------------------------------------------------------
-- What differs, and what does not
-----------------------------------------------------------------------------------------

/-- A step that expects nothing on a stream. -/
def Step.ExpectsElsewhere (stream : Stream) (step : Step) : Prop :=
  ∀ expectation, step.expectation = some expectation → expectation.stream ≠ stream

/-- Whether a call reads a stream. -/
def Call.readsOn (stream : Stream) : Call → Bool
  | .receive asked _ _ => asked = stream
  | _ => false

/-- The calls that do not read a stream, each with its answer, in order. -/
def callsBut (stream : Stream) (calls : List Call) : List Call :=
  calls.filter (!·.readsOn stream)

/-- Two peers that only reads of one stream can tell apart. Any other call gets the same answer from
both, and a read of the stream, made on either of them, is of no consequence for the other calls.
-/
structure DifferOn {σ τ : Type} [Peer σ] [Peer τ] (stream : Stream) (related : σ → τ → Prop)
    : Prop where
  send
    : ∀ {peer : σ} {other : τ} (text : String),
        related peer other
        → (Peer.send other text).1 = (Peer.send peer text).1
          ∧ related (Peer.send peer text).2 (Peer.send other text).2
  wait
    : ∀ {peer : σ} {other : τ},
        related peer other
        → (Peer.wait other).1 = (Peer.wait peer).1
          ∧ related (Peer.wait peer).2 (Peer.wait other).2
  receive
    : ∀ {peer : σ} {other : τ} {asked : Stream} (limit : Option Duration),
        asked ≠ stream
        → related peer other
        → (Peer.receive other asked limit).1 = (Peer.receive peer asked limit).1
          ∧ related (Peer.receive peer asked limit).2 (Peer.receive other asked limit).2
  left
    : ∀ {peer : σ} {other : τ} (limit : Option Duration),
        related peer other → related (Peer.receive peer stream limit).2 other
  right
    : ∀ {peer : σ} {other : τ} (limit : Option Duration),
        related peer other → related peer (Peer.receive other stream limit).2

/-- Two plays that cannot be told apart but by one stream: besides what alike plays share, all calls
that do not read the stream are the same and get the same answers, in the same order, and the same
is pending on the other stream.
-/
structure AlikeBut (stream : Stream) (calls others : List Call)
    (first second : Verdict × Session) : Prop extends Alike calls others first second where
  elsewhere : callsBut stream others = callsBut stream calls
  waits : others.countP Call.isWait = calls.countP Call.isWait
  pending : second.2.pending stream.other = first.2.pending stream.other

-----------------------------------------------------------------------------------------
-- What is done on one stream and what is pending on another
-----------------------------------------------------------------------------------------

namespace Session

/-- What is set on a stream twice is what was set last. -/
@[simp]
theorem setPending_setPending (session : Session) (stream : Stream) (octets more : Octets)
    : (session.setPending stream octets).setPending stream more
      = session.setPending stream more := by
  cases stream <;> rfl

/-- What is pending on a stream may be set there again. -/
@[simp]
theorem setPending_pending (session : Session) (stream : Stream)
    : session.setPending stream (session.pending stream) = session := by
  cases stream <;> rfl

/-- An entry of the log is the same whatever is pending. -/
theorem note_setPending (session : Session) (stream : Stream) (octets : Octets) (text : String)
    : (session.setPending stream octets).note text
      = (session.note text).setPending stream octets := by
  cases stream <;> rfl

/-- What was taken is logged the same whatever is pending. -/
theorem noteTaken_setPending (session : Session) (stream asked : Stream)
    (octets taken : Octets)
    : (session.setPending stream octets).noteTaken asked taken
      = (session.noteTaken asked taken).setPending stream octets := by
  unfold noteTaken
  split
  · rfl
  · exact note_setPending ..

/-- A comment is logged the same whatever is pending. -/
theorem noteComment_setPending (session : Session) (stream : Stream) (octets : Octets)
    (comment : Option String)
    : (session.setPending stream octets).noteComment comment
      = (session.noteComment comment).setPending stream octets := by
  cases comment with
  | none => rfl
  | some text => exact note_setPending ..

/-- The end of the program is noted the same whatever is pending. -/
theorem noteExit_setPending (session : Session) (stream : Stream) (octets : Octets)
    (code : Option Int)
    : (session.setPending stream octets).noteExit code
      = (session.noteExit code).setPending stream octets := by
  cases stream <;> rfl

variable {stream asked : Stream}

/-- Two streams may be set in either order. -/
theorem setPending_comm (ne : asked ≠ stream) (session : Session) (octets more : Octets)
    : (session.setPending stream octets).setPending asked more
      = (session.setPending asked more).setPending stream octets := by
  cases stream <;> cases asked <;> first | rfl | exact absurd rfl ne

/-- What is put behind a stream is so whatever is pending on another. -/
theorem append_setPending_of_ne (ne : asked ≠ stream) (session : Session)
    (octets more : Octets)
    : (session.setPending stream octets).append asked more
      = (session.append asked more).setPending stream octets := by
  rw [append, pending_setPending_of_ne ne, setPending_comm ne, append]

/-- A text is taken from a stream whatever is pending on another. -/
theorem takeText_setPending_of_ne (ne : asked ≠ stream) (session : Session) (octets : Octets)
    (text : String)
    : (session.setPending stream octets).takeText asked text
      = (session.takeText asked text).setPending stream octets := by
  rw [takeText, consume, pending_setPending_of_ne ne, setPending_comm ne,
    noteTaken_setPending, takeText, consume]

/-- Everything is taken from a stream whatever is pending on another. -/
theorem takeAll_setPending_of_ne (ne : asked ≠ stream) (session : Session) (octets : Octets)
    : (session.setPending stream octets).takeAll asked
      = (session.takeAll asked).setPending stream octets := by
  rw [takeAll, pending_setPending_of_ne ne, setPending_comm ne, noteTaken_setPending, takeAll]

/-- A mismatch on a stream is noted whatever is pending on another. -/
theorem noteMismatch_setPending_of_ne (ne : asked ≠ stream) (session : Session)
    (octets : Octets) (number : Nat) (expected : String)
    : (session.setPending stream octets).noteMismatch number asked expected
      = (session.noteMismatch number asked expected).setPending stream octets := by
  rw [noteMismatch, pending_setPending_of_ne ne, setPending_comm ne, note_setPending,
    note_setPending, noteMismatch]

end Session

-----------------------------------------------------------------------------------------
-- The rules on one stream and what is pending on another
-----------------------------------------------------------------------------------------

section Rules

variable {limit : Option Duration} {number : Nat} {stream asked : Stream}
  {session final : Session}

/-- A text is awaited on a stream whatever is pending on another, by induction on the reads. -/
theorem TextAwaited.setPending {expected : String} {answers : List Reception}
    {verdict : Option Verdict}
    (awaited : TextAwaited number asked expected session answers final verdict)
    (ne : asked ≠ stream) (octets : Octets)
    : TextAwaited number asked expected (session.setPending stream octets) answers
        (final.setPending stream octets) verdict := by
  have kept (begun : Session) := Session.pending_setPending_of_ne ne begun octets
  induction awaited with
  | @met session begins =>
      rw [← Session.takeText_setPending_of_ne ne]
      exact .met (by rwa [kept])
  | @apart session unmet differs =>
      rw [← Session.noteMismatch_setPending_of_ne ne, ← kept session]
      exact .apart (by rwa [kept]) (by rwa [kept])
  | @chunk session _ _ _ _ undecided _ ih =>
      rw [← Session.append_setPending_of_ne ne] at ih
      exact .chunk (by rwa [kept]) ih
  | @ended session undecided =>
      rw [← Session.noteMismatch_setPending_of_ne ne, ← kept session]
      exact .ended (by rwa [kept])
  | @silent session waited undecided =>
      rw [← Session.note_setPending, ← kept session]
      exact .silent (by rwa [kept])
  | failed undecided loud => exact .failed (by rwa [kept]) loud

/-- Any output is awaited on a stream whatever is pending on another, by cases on the rules. -/
theorem OutputAwaited.setPending {answers : List Reception} {verdict : Option Verdict}
    (awaited : OutputAwaited number asked session answers final verdict)
    (ne : asked ≠ stream) (octets : Octets)
    : OutputAwaited number asked (session.setPending stream octets) answers
        (final.setPending stream octets) verdict := by
  have kept := Session.pending_setPending_of_ne ne session octets
  cases awaited with
  | pending some =>
      rw [← Session.takeAll_setPending_of_ne ne]
      exact .pending (by rwa [kept])
  | chunk empty =>
      rw [← Session.takeAll_setPending_of_ne ne, ← Session.append_setPending_of_ne ne]
      exact .chunk (by rwa [kept])
  | ended empty => exact .ended (by rwa [kept])
  | silent empty => exact .silent (by rwa [kept])
  | failed empty loud => exact .failed (by rwa [kept]) loud

/-- No read of a stream reads another. -/
theorem Call.readsOn_of_mem_reads {answers : List Reception} (ne : asked ≠ stream) {call : Call}
    (made : call ∈ Call.reads asked limit answers)
    : call.readsOn stream = false := by
  obtain ⟨answer, -, rfl⟩ := List.mem_map.mp made
  exact decide_eq_false ne

/-- An expectation elsewhere is awaited whatever is pending on a stream, and by calls that do not
read it.
-/
theorem ExpectationAwaited.setPending {expectation : Option Expectation} {calls : List Call}
    {verdict : Option Verdict}
    (awaited : ExpectationAwaited limit number session expectation calls final verdict)
    (elsewhere : ∀ asked, expectation = some asked → asked.stream ≠ stream) (octets : Octets)
    : ExpectationAwaited limit number (session.setPending stream octets) expectation calls
          (final.setPending stream octets) verdict
        ∧ ∀ call ∈ calls, call.readsOn stream = false := by
  cases awaited with
  | nothing => exact ⟨.nothing, fun call member => absurd member List.not_mem_nil⟩
  | text awaited =>
      have ne := elsewhere _ rfl
      exact ⟨.text (awaited.setPending ne octets), fun _ => Call.readsOn_of_mem_reads ne⟩
  | output awaited =>
      have ne := elsewhere _ rfl
      exact ⟨.output (awaited.setPending ne octets), fun _ => Call.readsOn_of_mem_reads ne⟩

/-- A step that expects nothing on a stream is taken whatever is pending there, and by calls that do
not read it.
-/
theorem StepTaken.setPending {step : Step} {calls : List Call} {verdict : Option Verdict}
    (taken : StepTaken limit number step session calls final verdict)
    (elsewhere : step.ExpectsElsewhere stream) (octets : Octets)
    : StepTaken limit number step (session.setPending stream octets) calls
          (final.setPending stream octets) verdict
        ∧ ∀ call ∈ calls, call.readsOn stream = false := by
  cases taken with
  | quiet input awaited =>
      obtain ⟨again, none⟩ := awaited.setPending elsewhere octets
      rw [← Session.noteComment_setPending] at again
      exact ⟨.quiet input again, none⟩
  | sent input awaited =>
      obtain ⟨again, none⟩ := awaited.setPending elsewhere octets
      rw [Session.noteSent, ← Session.note_setPending, ← Session.noteComment_setPending] at again
      exact ⟨.sent input again, List.forall_mem_cons.mpr ⟨rfl, none⟩⟩
  | refused input =>
      rw [Session.noteSent, ← Session.note_setPending, ← Session.noteComment_setPending]
      exact ⟨.refused input, List.forall_mem_singleton.mpr rfl⟩

/-- Steps that expect nothing on a stream are taken whatever is pending there, and by calls that do
not read it. Witness: induction on the rules.
-/
theorem StepsTaken.setPending {steps : List Step} {calls : List Call} {verdict : Option Verdict}
    (taken : StepsTaken limit number steps session calls final verdict)
    (elsewhere : ∀ step ∈ steps, step.ExpectsElsewhere stream) (octets : Octets)
    : StepsTaken limit number steps (session.setPending stream octets) calls
          (final.setPending stream octets) verdict
        ∧ ∀ call ∈ calls, call.readsOn stream = false := by
  induction taken with
  | done => exact ⟨.done, fun call member => absurd member List.not_mem_nil⟩
  | stopped taken =>
      obtain ⟨again, none⟩ := taken.setPending (elsewhere _ List.mem_cons_self) octets
      exact ⟨.stopped again, none⟩
  | satisfied taken _ ih =>
      obtain ⟨again, none⟩ := taken.setPending (elsewhere _ List.mem_cons_self) octets
      obtain ⟨others, noneLater⟩ := ih fun step member => elsewhere step (.tail _ member)
      exact ⟨.satisfied again others, List.forall_mem_append.mpr ⟨none, noneLater⟩⟩

/-- A stream is gathered whatever is pending on another, by induction on the reads. -/
theorem Gathered.setPending {answers : List Reception}
    (came : Gathered asked session answers final) (ne : asked ≠ stream) (octets : Octets)
    : Gathered asked (session.setPending stream octets) answers
        (final.setPending stream octets) := by
  induction came with
  | chunk _ ih =>
      rw [← Session.append_setPending_of_ne ne] at ih
      exact .chunk ih
  | ended => exact .ended
  | failed => exact .failed

/-- Gathering a stream changes nothing but what is pending there, by induction on the reads. -/
theorem Gathered.eq_setPending {answers : List Reception}
    (came : Gathered stream session answers final)
    : final = session.setPending stream (final.pending stream) := by
  induction came with
  | @chunk session _ octets _ _ ih => rwa [Session.append, Session.setPending_setPending] at ih
  | ended => exact (Session.setPending_pending ..).symm
  | failed => exact (Session.setPending_pending ..).symm

end Rules

-----------------------------------------------------------------------------------------
-- Peers that differ on a stream
-----------------------------------------------------------------------------------------

/-- Calls without the reads of a stream, one after the other. -/
theorem callsBut_append (stream : Stream) (calls more : List Call)
    : callsBut stream (calls ++ more) = callsBut stream calls ++ callsBut stream more :=
  List.filter_append ..

/-- Of the reads of a stream none is left without them. -/
theorem callsBut_reads (stream : Stream) (limit : Option Duration) (answers : List Reception)
    : callsBut stream (Call.reads stream limit answers) = [] := by
  refine List.filter_eq_nil_iff.mpr ?_
  intro call made
  obtain ⟨answer, -, rfl⟩ := List.mem_map.mp made
  simp [Call.readsOn]

/-- Without the reads of a stream the same is sent. -/
theorem written_callsBut (stream : Stream) (calls : List Call)
    : written (callsBut stream calls) = written calls :=
  written_filter (fun _ _ => rfl) calls

/-- Without the reads of a stream there are as many waits. -/
theorem countP_isWait_callsBut (stream : Stream) (calls : List Call)
    : (callsBut stream calls).countP Call.isWait = calls.countP Call.isWait := by
  unfold callsBut
  rw [List.countP_filter]
  refine List.countP_congr fun call _ => ?_
  cases call <;> simp [Call.isWait, Call.readsOn]

namespace DifferOn

variable {σ τ : Type} [Peer σ] [Peer τ] {stream : Stream} {related : σ → τ → Prop}

/-- Calls that do not read the stream get the same answers from both, by induction on the calls. -/
theorem answered (differ : DifferOn stream related) {peer last : σ} {other : τ}
    {calls : List Call} (answered : Answered peer calls last)
    (none : ∀ call ∈ calls, call.readsOn stream = false) (start : related peer other)
    : ∃ otherLast, Answered other calls otherLast ∧ related last otherLast := by
  induction answered generalizing other with
  | nil => exact ⟨other, .nil other, start⟩
  | @send peer next _ text answer _ made _ ih =>
      obtain ⟨same, after⟩ := differ.send text start
      rw [made] at same after
      obtain ⟨otherLast, rest, ends⟩ := ih (fun call member => none call (.tail _ member)) after
      exact ⟨otherLast, .send (Prod.ext same rfl) rest, ends⟩
  | @receive peer next _ asked limit answer _ made _ ih =>
      have ne : asked ≠ stream := of_decide_eq_false (none _ List.mem_cons_self)
      obtain ⟨same, after⟩ := differ.receive limit ne start
      rw [made] at same after
      obtain ⟨otherLast, rest, ends⟩ := ih (fun call member => none call (.tail _ member)) after
      exact ⟨otherLast, .receive (Prod.ext same rfl) rest, ends⟩
  | @wait peer next _ answer _ made _ ih =>
      obtain ⟨same, after⟩ := differ.wait start
      rw [made] at same after
      obtain ⟨otherLast, rest, ends⟩ := ih (fun call member => none call (.tail _ member)) after
      exact ⟨otherLast, .wait (Prod.ext same rfl) rest, ends⟩

/-- Reads of the stream on the first of two peers are of no consequence, by induction on them. -/
theorem reads_left (differ : DifferOn stream related) {limit : Option Duration}
    {answers : List Reception} {peer last : σ} {other : τ} (start : related peer other)
    (answered : Answered peer (Call.reads stream limit answers) last)
    : related last other := by
  induction answers generalizing peer with
  | nil =>
      cases answered.eq_of_nil
      exact start
  | cons answer answers ih =>
      cases answered with
      | receive made rest =>
          have after := differ.left limit start
          rw [made] at after
          exact ih after rest

/-- Reads of the stream on the second of two peers are of no consequence, by induction on them. -/
theorem reads_right (differ : DifferOn stream related) {limit : Option Duration}
    {answers : List Reception} {peer : σ} {other last : τ} (start : related peer other)
    (answered : Answered other (Call.reads stream limit answers) last)
    : related peer last := by
  induction answers generalizing other with
  | nil =>
      cases answered.eq_of_nil
      exact start
  | cons answer answers ih =>
      cases answered with
      | receive made rest =>
          have after := differ.right limit start
          rw [made] at after
          exact ih after rest

/-- What either of two peers brings when a stream is gathered, the other one lets the play do the
same but for the stream on which they differ. On that stream each is read as it answers, on the
other one both answer alike.
-/
theorem gathered (differ : DifferOn stream related) {asked : Stream} {grace : Duration}
    {answers : List Reception} {session final : Session} {peer last : σ} {other : τ}
    (came : Gathered asked session answers final)
    (answered : Answered peer (Call.reads asked (some grace) answers) last)
    (start : related peer other) (octets : Octets)
    : ∃ others otherLast left,
        Answered other (Call.reads asked (some grace) others) otherLast
          ∧ Gathered asked (session.setPending stream octets) others
              (final.setPending stream left)
          ∧ related last otherLast
          ∧ callsBut stream (Call.reads asked (some grace) others)
            = callsBut stream (Call.reads asked (some grace) answers) := by
  by_cases same : asked = stream
  -- Whatever the other peer brings here is pending on this stream and nowhere else.
  · subst same
    obtain ⟨others, otherAnswered, otherCame⟩ :=
      Exchange.gather_follows grace asked ⟨session.setPending asked octets, other⟩
    generalize Exchange.gather grace asked ⟨session.setPending asked octets, other⟩ = after
      at otherAnswered otherCame
    have left : after.session = final.setPending asked (after.session.pending asked) := by
      rw [came.eq_setPending, Session.setPending_setPending]
      simpa only [Session.setPending_setPending] using otherCame.eq_setPending
    refine ⟨others, after.peer, after.session.pending asked, otherAnswered, left ▸ otherCame,
      differ.reads_right (differ.reads_left start answered) otherAnswered, ?_⟩
    rw [callsBut_reads, callsBut_reads]
  · obtain ⟨otherLast, otherAnswered, ends⟩ :=
      differ.answered answered (fun _ => Call.readsOn_of_mem_reads same) start
    exact ⟨answers, otherLast, octets, otherAnswered, came.setPending same octets, ends, rfl⟩

/-- The end of a play is waited for with either of two peers alike but for the stream, by cases on
the rules.
-/
theorem closed (differ : DifferOn stream related) {limit : Option Duration} {number : Nat}
    {calls : List Call} {verdict : Option Verdict} {session final : Session} {peer last : σ}
    {other : τ} (closed : Closed limit number session calls final verdict)
    (answered : Answered peer calls last) (start : related peer other) (octets : Octets)
    : ∃ others otherLast left,
        Answered other others otherLast
          ∧ Closed limit number (session.setPending stream octets) others
              (final.setPending stream left) verdict
          ∧ related last otherLast
          ∧ callsBut stream others = callsBut stream calls := by
  cases closed with
  | refused =>
      obtain ⟨otherLast, otherAnswered, ends⟩ :=
        differ.answered answered (List.forall_mem_singleton.mpr rfl) start
      exact ⟨_, otherLast, octets, otherAnswered, .refused, ends, rfl⟩
  | gathered stdout stderr =>
      cases answered with
      | wait made rest =>
          obtain ⟨same, waited⟩ := differ.wait start
          rw [made] at same waited
          obtain ⟨middle, first, second⟩ := rest.split
          obtain ⟨out, otherMiddle, between, outAnswered, outCame, halfway, outCalls⟩ :=
            differ.gathered stdout first waited octets
          obtain ⟨err, otherLast, left, errAnswered, errCame, ends, errCalls⟩ :=
            differ.gathered stderr second halfway between
          rw [← Session.noteExit_setPending] at outCame
          refine ⟨_, otherLast, left, .wait (Prod.ext same rfl) (outAnswered.append errAnswered),
            .gathered outCame errCame, ends, ?_⟩
          refine congrArg (Call.wait _ :: ·) ?_
          change callsBut stream _ = callsBut stream _
          rw [callsBut_append, callsBut_append, outCalls, errCalls]

/-- Steps that expect nothing on the stream are played with either of two peers alike but for the
stream, by cases on the rules.
-/
theorem played (differ : DifferOn stream related) {limit : Option Duration} {steps : List Step}
    {calls : List Call} {verdict : Verdict} {session final : Session} {peer last : σ}
    {other : τ} (played : Played limit steps session calls final verdict)
    (answered : Answered peer calls last)
    (elsewhere : ∀ step ∈ steps, step.ExpectsElsewhere stream) (start : related peer other)
    (octets : Octets)
    : ∃ others otherLast left,
        Answered other others otherLast
          ∧ Played limit steps (session.setPending stream octets) others
              (final.setPending stream left) verdict
          ∧ related last otherLast
          ∧ callsBut stream others = callsBut stream calls := by
  cases played with
  | stopped taken =>
      obtain ⟨again, none⟩ := taken.setPending elsewhere octets
      obtain ⟨otherLast, otherAnswered, ends⟩ := differ.answered answered none start
      exact ⟨calls, otherLast, octets, otherAnswered, .stopped again, ends, rfl⟩
  | passed taken goesOn =>
      obtain ⟨again, none⟩ := taken.setPending elsewhere octets
      obtain ⟨otherLast, otherAnswered, ends⟩ := differ.answered answered none start
      refine ⟨calls, otherLast, octets, otherAnswered, ?_, ends, rfl⟩
      rw [← Session.exitCode_setPending final stream octets]
      exact .passed again goesOn
  | closed taken closes closed =>
      obtain ⟨again, none⟩ := taken.setPending elsewhere octets
      obtain ⟨middle, first, second⟩ := answered.split
      obtain ⟨otherMiddle, otherFirst, halfway⟩ := differ.answered first none start
      obtain ⟨more, otherLast, left, otherSecond, closedToo, ends, sameCalls⟩ :=
        differ.closed closed second halfway octets
      refine ⟨_, otherLast, left, otherFirst.append otherSecond, ?_, ends, ?_⟩
      · rw [← Session.exitCode_setPending final stream left]
        exact .closed again closes closedToo
      · rw [callsBut_append, callsBut_append, sameCalls]

end DifferOn

-----------------------------------------------------------------------------------------
-- Two plays
-----------------------------------------------------------------------------------------

namespace Canned

/-- Peers with prepared answers that differ in the queue of one stream only. -/
def SameBut (stream : Stream) (peer other : Canned) : Prop :=
  ∃ answers, other = peer.setQueue stream answers

/-- What is prepared for a stream twice is what was prepared last. -/
theorem setQueue_setQueue (peer : Canned) (stream : Stream) (answers more : List Prepared)
    : (peer.setQueue stream answers).setQueue stream more = peer.setQueue stream more := by
  cases stream <;> rfl

/-- What is prepared for a stream may be prepared there again. -/
theorem setQueue_queue (peer : Canned) (stream : Stream)
    : peer.setQueue stream (peer.queue stream) = peer := by
  cases stream <;> rfl

/-- A text is taken the same whatever is prepared for a stream. -/
theorem send_setQueue (peer : Canned) (stream : Stream) (answers : List Prepared)
    (text : String)
    : Peer.send (peer.setQueue stream answers) text
      = ((Peer.send peer text).1, (Peer.send peer text).2.setQueue stream answers) := by
  rcases refusal : peer.sendFault with _ | ⟨count, fault⟩
  · cases stream <;> simp only [Peer.send, send, setQueue, refusal]
  · by_cases now : peer.sent = count <;> cases stream <;>
      simp only [Peer.send, send, setQueue, refusal, now, if_true, if_false]

/-- A wait is answered the same whatever is prepared for a stream. -/
theorem wait_setQueue (peer : Canned) (stream : Stream) (answers : List Prepared)
    : Peer.wait (peer.setQueue stream answers)
      = ((Peer.wait peer).1, (Peer.wait peer).2.setQueue stream answers) := by
  cases stream <;> rfl

/-- A read is answered the same whatever is prepared for another stream. -/
theorem receive_setQueue_of_ne {stream asked : Stream} (ne : asked ≠ stream) (peer : Canned)
    (answers : List Prepared) (limit : Option Duration)
    : Peer.receive (peer.setQueue stream answers) asked limit
      = ((Peer.receive peer asked limit).1,
          (Peer.receive peer asked limit).2.setQueue stream answers) := by
  cases stream <;> cases asked <;> first | exact absurd rfl ne | skip
  all_goals
    simp only [Peer.receive, receive, queue, setQueue]
    split <;> rfl

/-- A read of a stream takes from what is prepared there and nothing else. -/
theorem receive_sameBut (peer : Canned) (stream : Stream) (limit : Option Duration)
    : peer.SameBut stream (Peer.receive peer stream limit).2 := by
  simp only [Peer.receive, receive]
  split
  · exact ⟨_, (setQueue_queue peer stream).symm⟩
  · exact ⟨_, rfl⟩

/-- Peers with prepared answers that differ in the queue of a stream are told apart by reads of it
only.
-/
theorem differOn (stream : Stream)
    : DifferOn stream (SameBut stream) where
  send := by
    rintro peer _ text ⟨answers, rfl⟩
    rw [send_setQueue]
    exact ⟨rfl, answers, rfl⟩
  wait := by
    rintro peer _ ⟨answers, rfl⟩
    rw [wait_setQueue]
    exact ⟨rfl, answers, rfl⟩
  receive := by
    rintro peer _ asked limit ne ⟨answers, rfl⟩
    rw [receive_setQueue_of_ne ne]
    exact ⟨rfl, answers, rfl⟩
  left := by
    rintro peer _ limit ⟨answers, rfl⟩
    obtain ⟨rest, left⟩ := receive_sameBut peer stream limit
    exact ⟨answers, by rw [left, setQueue_setQueue]⟩
  right := by
    rintro peer _ limit ⟨answers, rfl⟩
    obtain ⟨rest, left⟩ := receive_sameBut (peer.setQueue stream answers) stream limit
    exact ⟨rest, by rw [left, setQueue_setQueue]⟩

end Canned

variable {σ τ : Type} [Peer σ] [Peer τ]

/-- A stream on which nothing is expected makes no difference to a play: with other octets pending
on it and a peer that answers reads of it in another way, the play comes out the same but for what
is left there, and leaves peers that differ no further.
-/
theorem play_streams_apart {stream : Stream} {related : σ → τ → Prop}
    (differ : DifferOn stream related) {limit : Option Duration} {scenario : Scenario}
    (elsewhere : ∀ step ∈ scenario.steps, step.ExpectsElsewhere stream) {session : Session}
    {peer : σ} {other : τ} (start : related peer other) (octets : Octets)
    : let first := play limit scenario ⟨session, peer⟩
      let second := play limit scenario ⟨session.setPending stream octets, other⟩
      AlikeBut stream (playCalls limit scenario.steps ⟨session, peer⟩)
          (playCalls limit scenario.steps ⟨session.setPending stream octets, other⟩)
          (first.1, first.2.session) (second.1, second.2.session)
        ∧ related first.2.peer second.2.peer := by
  intro first second
  obtain ⟨calls, answered, played⟩ := playSteps_follows limit scenario.steps ⟨session, peer⟩
  obtain ⟨others, otherLast, left, otherAnswered, playedToo, ends, sameCalls⟩ :=
    differ.played played answered elsewhere start octets
  have came : second = (first.1, ⟨first.2.session.setPending stream left, otherLast⟩) :=
    playedToo.determines otherAnswered
  rw [played.calls_eq answered, playedToo.calls_eq otherAnswered, came]
  refine ⟨?_, ends⟩
  exact {
    verdict := rfl
    log := Session.log_setPending ..
    exitCode := Session.exitCode_setPending ..
    sent := by rw [← written_callsBut stream others, sameCalls, written_callsBut]
    elsewhere := sameCalls
    waits := by
      rw [← countP_isWait_callsBut stream others, sameCalls, countP_isWait_callsBut]
    pending := Session.pending_other_setPending ..
  }

/-- Nothing is expected on stdout. With one peer it stays empty; with the other something was said
there before, something comes, and then it breaks. Both plays pass with what stderr brings in
pieces, and log the same.
-/
theorem play_streams_apart_of_noise
    : let scenario : Scenario :=
        { name := "noise",
          steps :=
            [{ input := some "go\n", output := some "no\n", onStderr := true, closes := true }] }
      let peer : Canned :=
        { stderr := [.chunk [110], .chunk [111, 10]], exitCode := some 3 }
      let other : Canned :=
        peer.setQueue .stdout [.chunk [120], .fault (.described .other (some "gone"))]
      let first := play none scenario ⟨{}, peer⟩
      let second := play none scenario ⟨Session.setPending {} .stdout [121], other⟩
      DifferOn .stdout (Canned.SameBut .stdout)
        ∧ peer.SameBut .stdout other
        ∧ (∀ step ∈ scenario.steps, step.ExpectsElsewhere .stdout)
        ∧ second.1 = .passed (some 3)
        ∧ second.2.session.log = first.2.session.log := by
  intro scenario peer other first second
  have start : peer.SameBut .stdout other := ⟨_, rfl⟩
  have elsewhere : ∀ step ∈ scenario.steps, step.ExpectsElsewhere .stdout := by
    intro step member expectation expects
    cases List.mem_singleton.mp member
    cases expects
    decide
  have passed : playSteps none scenario.steps ⟨{}, peer⟩ = _ :=
    Played.determines
      (.closed
        (.satisfied
          (.sent rfl (.text (.chunk ⟨by decide, by decide⟩
            (.chunk ⟨by decide, by decide⟩ (.met (by decide)))))) .done)
        rfl (.gathered .ended .ended))
      (.send rfl (.receive rfl (.receive rfl (.wait rfl (.receive rfl (.receive rfl (.nil _)))))))
  have came : first.1 = .passed (some 3) := congrArg Prod.fst passed
  have alike : AlikeBut .stdout _ _ (first.1, first.2.session) (second.1, second.2.session) :=
    (play_streams_apart (Canned.differOn .stdout) elsewhere start [121]).1
  exact ⟨Canned.differOn .stdout, start, elsewhere, alike.verdict.trans came, alike.log⟩

end Dialogue
