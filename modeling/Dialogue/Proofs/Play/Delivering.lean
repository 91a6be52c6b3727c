import Dialogue.Peer.Canned
import Dialogue.Proofs.Play.Record

/-!
Peers that deliver: they take every input, end with a code, and bring on each stream the chunks of
a queue, in order, after which the stream has ended for ever. How a peer does so is left open; one
with prepared chunks does.
-/

namespace Dialogue

-----------------------------------------------------------------------------------------
-- Calls on a peer that delivers
-----------------------------------------------------------------------------------------

/-- The answer that a call got on a stream, if it read that stream. -/
def Call.answerOn? (stream : Stream) : Call → Option Reception
  | .receive asked _ answer => if asked = stream then some answer else none
  | _ => none

/-- The answers that calls got on a stream, in order. -/
def answersOn (stream : Stream) (calls : List Call) : List Reception :=
  calls.filterMap (Call.answerOn? stream)

/-- The answers of a queue of chunks: each chunk once, and after the last of them the end. -/
inductive FromQueue : List Octets → List Reception → Prop
  | unread (chunks : List Octets) : FromQueue chunks []
  | chunk {chunks : List Octets} {answers : List Reception} (octets : Octets)
    (later : FromQueue chunks answers)
    : FromQueue (octets :: chunks) (.chunk octets :: answers)
  | ended {answers : List Reception} (later : FromQueue [] answers)
    : FromQueue [] (.ended :: answers)

/-- Calls whose answers are those of a peer that takes every input, ends with a code and has these
chunks in the queues of its streams.
-/
structure Delivery (code : Option Int) (chunks : Stream → List Octets) (calls : List Call)
    : Prop where
  sends
    : ∀ {text : String} {answer : Except PeerError Unit},
        .send text answer ∈ calls → answer = .ok ()
  waits : ∀ {answer : Except PeerError (Option Int)}, .wait answer ∈ calls → answer = .ok code
  reads : ∀ stream, FromQueue (chunks stream) (answersOn stream calls)

/-- A peer that answers so whatever calls are made on it. -/
def Delivers {σ : Type} [Peer σ] (code : Option Int) (chunks : Stream → List Octets)
    (peer : σ) : Prop :=
  ∀ {calls : List Call} {last : σ}, Answered peer calls last → Delivery code chunks calls

/-- What calls brought on a stream is what their answers there brought. -/
theorem received_eq_gathered (stream : Stream) (calls : List Call)
    : received stream calls = gathered (answersOn stream calls) := by
  induction calls with
  | nil => rfl
  | cons call calls ih =>
      rw [received_cons, ih]
      cases call with
      | send _ _ => rfl
      | wait _ => rfl
      | receive asked _ answer =>
          by_cases same : asked = stream <;>
            simp [answersOn, Call.answerOn?, Call.octetsOn, same, gathered]

/-- The answer to a read of a stream is one of those on the stream. -/
theorem mem_answersOn {stream : Stream} {limit : Option Duration} {answer : Reception}
    {calls : List Call} (made : .receive stream limit answer ∈ calls)
    : answer ∈ answersOn stream calls :=
  List.mem_filterMap.mpr ⟨_, made, if_pos rfl⟩

/-- A call that reads gets its answer on its stream, and on no other. -/
theorem answersOn_receive (stream asked : Stream) (limit : Option Duration) (answer : Reception)
    (calls : List Call)
    : answersOn stream (.receive asked limit answer :: calls)
      = (if asked = stream then [answer] else []) ++ answersOn stream calls := by
  by_cases same : asked = stream <;> simp [answersOn, Call.answerOn?, same]

/-- What a queue brought is the beginning of what is in it, and all of it once the end came. -/
theorem FromQueue.flatten_eq {chunks : List Octets} {answers : List Reception}
    (queued : FromQueue chunks answers)
    : ∃ rest,
        chunks.flatten = gathered answers ++ rest ∧ (.ended ∈ answers → rest = []) := by
  induction queued with
  | unread chunks => exact ⟨chunks.flatten, rfl, fun member => by cases member⟩
  | chunk octets _ ih =>
      obtain ⟨rest, brought, atEnd⟩ := ih
      refine ⟨rest, ?_, fun member => atEnd (by simpa using member)⟩
      rw [List.flatten_cons, gathered_chunk, brought, List.append_assoc]
  | ended _ ih =>
      obtain ⟨rest, brought, -⟩ := ih
      exact ⟨rest, brought, fun _ => (List.append_eq_nil_iff.mp brought.symm).2⟩

/-- No read of a queue fails, by induction on the answers. -/
theorem FromQueue.not_failed {chunks : List Octets} {answers : List Reception}
    (queued : FromQueue chunks answers) (error : PeerError)
    : .failed error ∉ answers := by
  induction queued with
  | unread _ => exact List.not_mem_nil
  | chunk _ _ ih => simpa using ih
  | ended _ ih => simpa using ih

namespace Delivery

variable {code : Option Int} {chunks : Stream → List Octets} {calls : List Call}

/-- What calls brought on a stream is the beginning of what is in its queue, and all of it once the
end was read.
-/
theorem flatten_eq (delivery : Delivery code chunks calls) (stream : Stream)
    : ∃ rest,
        (chunks stream).flatten = received stream calls ++ rest
          ∧ ∀ limit, .receive stream limit .ended ∈ calls → rest = [] := by
  obtain ⟨rest, brought, atEnd⟩ := (delivery.reads stream).flatten_eq
  rw [received_eq_gathered]
  exact ⟨rest, brought, fun _ made => atEnd (mem_answersOn made)⟩

/-- No read fails. -/
theorem not_failed (delivery : Delivery code chunks calls) (stream : Stream)
    (limit : Option Duration) (error : PeerError)
    : .receive stream limit (.failed error) ∉ calls :=
  fun made => (delivery.reads stream).not_failed error (mem_answersOn made)

/-- An input that is taken may come first. -/
theorem send (later : Delivery code chunks calls) (text : String)
    : Delivery code chunks (.send text (.ok ()) :: calls) where
  sends := by
    intro other answer made
    rcases List.mem_cons.mp made with first | made
    · exact (Call.send.inj first).2
    · exact later.sends made
  waits := by
    intro answer made
    exact later.waits (List.mem_of_ne_of_mem (by simp) made)
  reads := later.reads

/-- A wait that is answered with the code may come first. -/
theorem wait (later : Delivery code chunks calls)
    : Delivery code chunks (.wait (.ok code) :: calls) where
  sends := by
    intro text answer made
    exact later.sends (List.mem_of_ne_of_mem (by simp) made)
  waits := by
    intro answer made
    rcases List.mem_cons.mp made with first | made
    · exact Call.wait.inj first
    · exact later.waits made
  reads := later.reads

/-- A read may come first, if the queues still give all answers. -/
theorem receive {others : Stream → List Octets} (later : Delivery code others calls)
    {stream : Stream} {limit : Option Duration} {answer : Reception}
    (reads
      : ∀ asked,
          FromQueue (chunks asked) (answersOn asked (.receive stream limit answer :: calls)))
    : Delivery code chunks (.receive stream limit answer :: calls) where
  sends := by
    intro text answer made
    exact later.sends (List.mem_of_ne_of_mem (by simp) made)
  waits := by
    intro answer made
    exact later.waits (List.mem_of_ne_of_mem (by simp) made)
  reads := reads

/-- The end of a stream without chunks may be read first. -/
theorem ended {stream : Stream} (later : Delivery code chunks calls)
    (empty : chunks stream = []) (limit : Option Duration)
    : Delivery code chunks (.receive stream limit .ended :: calls) := by
  refine later.receive ?_
  intro asked
  have answers := later.reads asked
  by_cases same : stream = asked
  · subst same
    rw [empty] at answers ⊢
    simpa [answersOn, Call.answerOn?] using answers.ended
  · simpa [answersOn, Call.answerOn?, same] using answers

/-- The first chunk of a queue may be read first, if the others come later. -/
theorem chunk {stream : Stream} {octets : Octets} {others : List Octets}
    (later
      : Delivery code (fun asked => if asked = stream then others else chunks asked) calls)
    (head : chunks stream = octets :: others) (limit : Option Duration)
    : Delivery code chunks (.receive stream limit (.chunk octets) :: calls) := by
  refine later.receive ?_
  intro asked
  have answers := later.reads asked
  by_cases same : stream = asked
  · subst same
    rw [if_pos rfl] at answers
    rw [head]
    simpa [answersOn, Call.answerOn?] using answers.chunk octets
  · rw [if_neg (Ne.symm same)] at answers
    simpa [answersOn, Call.answerOn?, same] using answers

end Delivery

-----------------------------------------------------------------------------------------
-- A peer with prepared chunks
-----------------------------------------------------------------------------------------

/-- A peer with prepared chunks only, which faults nowhere and ends with a code. -/
structure Canned.Holds (peer : Canned) (code : Option Int) (chunks : Stream → List Octets)
    : Prop where
  queued : ∀ stream, peer.queue stream = (chunks stream).map .chunk
  ends : peer.afterLast = .ends
  exits : peer.exitCode = code
  takes : peer.sendFault = none
  waits : peer.waitFault = none

/-- A queue from which the first chunk was taken, with the other queue as it was. -/
theorem Canned.Holds.setQueue {peer : Canned} {code : Option Int}
    {chunks : Stream → List Octets} (holds : peer.Holds code chunks) (stream : Stream)
    (others : List Octets)
    : (peer.setQueue stream (others.map .chunk)).Holds code
        (fun asked => if asked = stream then others else chunks asked) where
  queued := by
    intro asked
    have out := holds.queued .stdout
    have err := holds.queued .stderr
    cases stream <;> cases asked <;> first | rfl | exact out | exact err
  ends := by cases stream <;> exact holds.ends
  exits := by cases stream <;> exact holds.exits
  takes := by cases stream <;> exact holds.takes
  waits := by cases stream <;> exact holds.waits

/-- A peer with prepared chunks delivers them. Witness: induction on the calls; a read takes the
first chunk from its queue and leaves the other queue as it was.
-/
theorem Canned.Holds.delivers {peer : Canned} {code : Option Int}
    {chunks : Stream → List Octets} (holds : peer.Holds code chunks)
    : Delivers code chunks peer := by
  intro calls last answered
  induction answered generalizing chunks with
  | nil peer =>
      exact {
        sends := fun made => by cases made
        waits := fun made => by cases made
        reads := fun stream => .unread (chunks stream)
      }
  | @send peer next last text answer calls made _ ih =>
      simp only [Peer.send, Canned.send, holds.takes] at made
      cases made
      refine (ih ?_).send text
      exact ⟨holds.queued, holds.ends, holds.exits, rfl, holds.waits⟩
  | @receive peer next last stream limit answer calls made _ ih =>
      simp only [Peer.receive, Canned.receive, holds.queued] at made
      cases queue : chunks stream with
      | nil =>
          simp only [queue, List.map_nil, lastAnswer, holds.ends] at made
          cases made
          exact (ih holds).ended queue limit
      | cons octets others =>
          simp only [queue, List.map_cons, Canned.answer] at made
          cases made
          exact (ih (holds.setQueue stream others)).chunk queue limit
  | @wait peer next last answer calls made _ ih =>
      simp only [Peer.wait, Canned.wait, holds.waits, holds.exits] at made
      cases made
      refine (ih ?_).wait
      exact ⟨holds.queued, holds.ends, rfl, holds.takes, rfl⟩

end Dialogue
