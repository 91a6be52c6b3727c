import Dialogue.Child.Reader

/-!
Histories of a reader: its worker reads and someone asks, in any order and with any limits, and a
limit may run out whatever the queue holds by then. Each octet that was read is returned once and in
order, and a stream is over only when all of them were.
-/

namespace Dialogue

-----------------------------------------------------------------------------------------
-- What happens to a reader
-----------------------------------------------------------------------------------------

namespace SourceAnswer

/-- A read brings at most so much as the worker reads at once. -/
def Fits : SourceAnswer → Prop
  | .octets come => come.length ≤ Reader.readSize
  | _ => True

/-- The worker stops with a read that is the end or a fault. -/
def stops : SourceAnswer → Bool
  | .octets come => come.isEmpty
  | .interrupted => false
  | .failed _ => true

/-- What a read puts into the queue: a chunk, a fault, or nothing. -/
def messages : SourceAnswer → List (Except Fault Octets)
  | .octets [] => []
  | .octets come => [.ok come]
  | .interrupted => []
  | .failed fault => [.error fault]

/-- A chunk that a read puts into the queue is what it read, and not empty. -/
theorem eq_octets {answer : SourceAnswer} {octets : Octets}
    (put : .ok octets ∈ answer.messages)
    : answer = .octets octets ∧ octets ≠ [] := by
  rcases answer with come | _ | fault
  · cases come with
    | nil => cases put
    | cons octet come =>
        cases List.mem_singleton.mp put
        exact ⟨rfl, List.cons_ne_nil octet come⟩
  · cases put
  · cases List.mem_singleton.mp put

/-- A fault that a read puts into the queue is the one with which it failed. -/
theorem eq_failed {answer : SourceAnswer} {fault : Fault}
    (put : .error fault ∈ answer.messages)
    : answer = .failed fault := by
  rcases answer with come | _ | fault
  · cases come with
    | nil => cases put
    | cons octet come => cases List.mem_singleton.mp put
  · cases put
  · cases List.mem_singleton.mp put
    rfl

end SourceAnswer

/-- What an answer took from the queue: a chunk, a fault, or nothing. -/
def Reception.messages : Reception → List (Except Fault Octets)
  | .chunk octets => [.ok octets]
  | .failed (.receive _ fault) => [.error fault]
  | _ => []

namespace Reader

/-- One thing that happens to a reader. -/
inductive Event
  /-- The worker reads. -/
  | read (answer : SourceAnswer)
  /-- Someone who asked, with or without a limit, is answered. -/
  | asked (limit : Option Duration) (answer : Reception)

/-- What can happen to the reader of a stream. A read, what it puts into the queue and the stop of
the worker behind it are one event, since nobody who asks in between could tell: what is in the
queue comes first, and whether the worker has stopped matters only when nothing is.
-/
inductive Happens (stream : Stream) : Reader → Event → Reader → Prop
  | read {reader : Reader} {answer : SourceAnswer} (working : reader.working = true)
    (fits : answer.Fits)
    : Happens stream reader (.read answer) (reader.work answer)
  | taken {reader next : Reader} {limit : Option Duration} {answer : Reception}
    (there : reader.take? stream = some (answer, next))
    : Happens stream reader (.asked limit answer) next
  /-- A limit runs out. There may be something in the queue that came too late. -/
  | silent {reader : Reader} {limit : Duration} (unclosed : reader.closed = false)
    : Happens stream reader (.asked (some limit) (.failed (.silence limit))) reader

/-- What happens to the reader of a stream, one thing after the other. -/
inductive History (stream : Stream) : Reader → List Event → Reader → Prop
  | nil (reader : Reader) : History stream reader [] reader
  | cons {reader next last : Reader} {event : Event} {events : List Event}
    (happens : Happens stream reader event next) (later : History stream next events last)
    : History stream reader (event :: events) last

namespace Event

/-- The octets that a read brought. -/
def brought : Event → Octets
  | .read (.octets octets) => octets
  | _ => []

/-- The octets with which one who asked was answered. -/
def returned : Event → Octets
  | .asked _ (.chunk octets) => octets
  | _ => []

/-- The fault of the source that was reported to one who asked, if one was. -/
def fault? : Event → Option Fault
  | .asked _ (.failed (.receive _ fault)) => some fault
  | _ => none

/-- A fault is reported as what the read of a stream met. -/
theorem eq_of_fault? {event : Event} {fault : Fault} (reported : event.fault? = some fault)
    : ∃ limit asked, event = .asked limit (.failed (.receive asked fault)) := by
  unfold fault? at reported
  split at reported
  · next limit asked _ =>
      cases reported
      exact ⟨limit, asked, rfl⟩
  · cases reported

/-- An event that is neither an interrupted read nor a limit that ran out. -/
def matters : Event → Bool
  | .read .interrupted => false
  | .asked _ (.failed (.silence _)) => false
  | _ => true

/-- What an event puts into the queue. -/
def put : Event → List (Except Fault Octets)
  | .read answer => answer.messages
  | .asked _ _ => []

/-- What an event takes from the queue. -/
def taken : Event → List (Except Fault Octets)
  | .read _ => []
  | .asked _ answer => answer.messages

end Event

/-- The octets of a message; a fault has none. -/
def octetsOf : Except Fault Octets → Octets
  | .ok octets => octets
  | .error _ => []

/-- The octets in the queue of a reader. -/
def queued (reader : Reader) : Octets :=
  reader.queue.flatMap octetsOf

/-- The reader of a stream of which the end or a fault was met. -/
def spent : Reader where
  working := false
  closed := true

-----------------------------------------------------------------------------------------
-- What a history delivers
-----------------------------------------------------------------------------------------

/-- What comes between these two parts of a history is final: all octets that were ever read had
been returned by then, the worker had stopped, and whoever asks later meets the end at once.
-/
structure Final (stream : Stream) (before after : List Event) (last : Reader) : Prop where
  all : before.flatMap Event.returned = (before ++ after).flatMap Event.brought
  stopped : ∃ answer, .read answer ∈ before ∧ answer.stops = true
  ends : ∀ event ∈ after, ∃ limit, event = .asked limit .ended
  stays : last.take? stream = some (.ended, last)

/-- What a history of the reader of a stream delivers to those who ask. Whoever asks next is
answered at once, unless nothing is in the queue and the worker still reads.
-/
structure Delivered (stream : Stream) (events : List Event) (last : Reader) : Prop where
  conserved
    : events.flatMap Event.returned ++ last.queued = events.flatMap Event.brought
  prompt : (last.take? stream).isSome = true ↔ last.queue ≠ [] ∨ last.working = false
  sizes
    : ∀ {limit octets},
        .asked limit (.chunk octets) ∈ events → octets ≠ [] ∧ octets.length ≤ 8192
  undisturbed : History stream {} (events.filter Event.matters) last
  once : (events.filterMap Event.fault?).length ≤ 1
  faulted
    : ∀ {before limit asked fault after},
        events = before ++ .asked limit (.failed (.receive asked fault)) :: after
        → asked = stream
          ∧ .read (.failed fault) ∈ before
          ∧ Final stream before after last
  ended
    : ∀ {before limit after},
        events = before ++ .asked limit .ended :: after → Final stream before after last

variable {stream : Stream} {reader next last : Reader} {event : Event} {events : List Event}

-----------------------------------------------------------------------------------------
-- Histories one after the other
-----------------------------------------------------------------------------------------

/-- A history in two parts has a reader in between, by induction on the first part. -/
theorem History.split {before after : List Event}
    (history : History stream reader (before ++ after) last)
    : ∃ middle, History stream reader before middle ∧ History stream middle after last := by
  induction before generalizing reader with
  | nil => exact ⟨reader, .nil reader, history⟩
  | cons event before ih =>
      cases history with
      | cons happens later =>
          obtain ⟨middle, first, second⟩ := ih later
          exact ⟨middle, .cons happens first, second⟩

/-- What the worker reads in a history fits, by induction on the history. -/
theorem History.fits {answer : SourceAnswer} (history : History stream reader events last)
    (made : .read answer ∈ events)
    : answer.Fits := by
  induction history with
  | nil _ => cases made
  | cons happens _ ih =>
      rcases List.mem_cons.mp made with rfl | made
      · cases happens with
        | read _ fits => exact fits
      · exact ih made

-----------------------------------------------------------------------------------------
-- The queue
-----------------------------------------------------------------------------------------

/-- A worker that has not stopped puts what it reads behind the queue. -/
theorem queue_work (working : reader.working = true) (answer : SourceAnswer)
    : (reader.work answer).queue = reader.queue ++ answer.messages := by
  unfold work SourceAnswer.messages
  split <;> simp [working]

/-- The ways in which one who asks takes what there is. -/
inductive Takes (stream : Stream) (reader : Reader) : Reception → Reader → Prop
  | closed : Takes stream reader .ended reader
  | chunk {octets : Octets} {rest : List (Except Fault Octets)}
    (queue : reader.queue = .ok octets :: rest)
    : Takes stream reader (.chunk octets) { reader with queue := rest }
  | fault {fault : Fault} {rest : List (Except Fault Octets)}
    (queue : reader.queue = .error fault :: rest)
    : Takes stream reader (.failed (.receive stream fault))
        { reader with queue := rest, closed := true }
  | ended : Takes stream reader .ended { reader with closed := true }

/-- One who asks takes what there is in one of these ways. -/
theorem takes_of_take? {answer : Reception} (there : reader.take? stream = some (answer, next))
    : Takes stream reader answer next := by
  unfold take? at there
  split at there
  · cases there
    exact .closed
  · split at there
    · next queue =>
        cases there
        exact .chunk queue
    · next queue =>
        cases there
        exact .fault queue
    · split at there <;> cases there
      exact .ended

/-- An event takes from the front of the queue and puts behind it. -/
theorem Happens.queue_eq (happens : Happens stream reader event next)
    : reader.queue ++ event.put = event.taken ++ next.queue := by
  cases happens with
  | read working _ => exact (queue_work working _).symm
  | taken there =>
      refine (List.append_nil _).trans ?_
      cases takes_of_take? there with
      | closed => rfl
      | chunk queue => exact queue
      | fault queue => exact queue
      | ended => rfl
  | silent _ => exact List.append_nil _

/-- What a history takes from the queue and what it leaves there is what there was and what it puts
there, in order, by induction on the history.
-/
theorem History.queue_eq (history : History stream reader events last)
    : reader.queue ++ events.flatMap Event.put = events.flatMap Event.taken ++ last.queue := by
  induction history with
  | nil reader => exact List.append_nil _
  | cons happens _ ih =>
      rw [List.flatMap_cons, List.flatMap_cons, ← List.append_assoc, happens.queue_eq,
        List.append_assoc, ih, List.append_assoc]

/-- What an event puts into the queue are the octets that it brought. -/
theorem Event.octetsOf_put (event : Event)
    : event.put.flatMap octetsOf = event.brought := by
  rcases event with answer | ⟨limit, answer⟩
  · cases answer with
    | octets come => cases come <;> simp [put, SourceAnswer.messages, octetsOf, brought]
    | interrupted => rfl
    | failed fault => rfl
  · rfl

/-- What an event takes from the queue are the octets that it returned. -/
theorem Event.octetsOf_taken (event : Event)
    : event.taken.flatMap octetsOf = event.returned := by
  unfold taken Reception.messages returned
  rcases event with answer | ⟨limit, octets | _ | error⟩
  · rfl
  · exact List.flatMap_singleton ..
  · rfl
  · cases error <;> rfl

/-- The octets that a history returned and those that it left in the queue are those that were there
and those that it brought, in order.
-/
theorem History.queued_eq (history : History stream reader events last)
    : reader.queued ++ events.flatMap Event.brought
      = events.flatMap Event.returned ++ last.queued := by
  have octets := congrArg (List.flatMap octetsOf) history.queue_eq
  simp only [List.flatMap_append, List.flatMap_assoc, Event.octetsOf_put,
    Event.octetsOf_taken] at octets
  exact octets

-----------------------------------------------------------------------------------------
-- The stages of a reader
-----------------------------------------------------------------------------------------

/-- The stages that a reader goes through. -/
inductive Stage : Reader → Prop
  | reading (chunks : List Octets) : Stage { queue := chunks.map .ok }
  | ended (chunks : List Octets) : Stage { queue := chunks.map .ok, working := false }
  | faulted (chunks : List Octets) (fault : Fault)
    : Stage { queue := chunks.map .ok ++ [.error fault], working := false }
  | spent : Stage spent

/-- What the worker reads leads to the next stage, or stays in the first. -/
theorem Stage.work (stage : Stage reader) (working : reader.working = true)
    (answer : SourceAnswer)
    : Stage (reader.work answer) := by
  cases stage with
  | reading chunks =>
      cases answer with
      | octets come =>
          cases come with
          | nil => exact .ended chunks
          | cons octet come =>
              have more := reading (chunks ++ [octet :: come])
              rw [List.map_append] at more
              exact more
      | interrupted => exact .reading chunks
      | failed fault => exact .faulted chunks fault
  | ended => cases working
  | faulted => cases working
  | spent => cases working

/-- What a reader in one of the stages yields: a chunk, or what ends the stream, which is only
met when nothing is queued before it and the worker has stopped.
-/
inductive Yields (stream : Stream) (reader : Reader) : Reception → Reader → Prop
  | chunk {next : Reader} (octets : Octets) (stage : Stage next)
    : Yields stream reader (.chunk octets) next
  | ended (drained : reader.queue = []) (stopped : reader.working = false)
    : Yields stream reader .ended spent
  | fault {fault : Fault} (drained : reader.queue = [.error fault])
    (stopped : reader.working = false)
    : Yields stream reader (.failed (.receive stream fault)) spent

/-- One who asks takes what a reader in one of the stages yields. -/
theorem Stage.yields {answer : Reception} (stage : Stage reader)
    (there : reader.take? stream = some (answer, next))
    : Yields stream reader answer next := by
  -- Only the first message of the queue counts, so an empty queue is told from any other.
  cases stage with
  | reading chunks =>
      cases chunks with
      | nil => cases there
      | cons octets chunks =>
          cases there
          exact .chunk octets (.reading chunks)
  | ended chunks =>
      cases chunks with
      | nil =>
          cases there
          exact .ended rfl rfl
      | cons octets chunks =>
          cases there
          exact .chunk octets (.ended chunks)
  | faulted chunks fault =>
      cases chunks with
      | nil =>
          cases there
          exact .fault rfl rfl
      | cons octets chunks =>
          cases there
          exact .chunk octets (.faulted chunks fault)
  | spent =>
      cases there
      exact .ended rfl rfl

/-- There is something to take exactly if something is in the queue or the worker has stopped. -/
theorem Stage.prompt (stage : Stage reader)
    : (reader.take? stream).isSome = true ↔ reader.queue ≠ [] ∨ reader.working = false := by
  cases stage with
  | reading chunks => cases chunks <;> simp [Reader.take?]
  | ended chunks => cases chunks <;> simp [Reader.take?]
  | faulted chunks fault => cases chunks <;> simp [Reader.take?]
  | spent => simp [Reader.take?, Reader.spent]

/-- What happens to a reader leads to one of the stages. -/
theorem Stage.happens (stage : Stage reader) (happens : Happens stream reader event next)
    : Stage next := by
  cases happens with
  | read working _ => exact stage.work working _
  | taken there =>
      cases stage.yields there with
      | chunk _ stage => exact stage
      | ended _ _ => exact .spent
      | fault _ _ => exact .spent
  | silent _ => exact stage

/-- A history leads to one of the stages, by induction on the history. -/
theorem History.stage (history : History stream reader events last) (stage : Stage reader)
    : Stage last := by
  induction history with
  | nil _ => exact stage
  | cons happens _ ih => exact ih (stage.happens happens)

/-- A worker stops only with a read. -/
theorem Happens.stopped (happens : Happens stream reader event next)
    (working : reader.working = true) (stopped : next.working = false)
    : ∃ answer, event = .read answer ∧ answer.stops = true := by
  cases happens with
  | @read answer _ _ =>
      refine ⟨answer, rfl, ?_⟩
      cases answer with
      | octets come =>
          cases come with
          | nil => rfl
          | cons octet come => simp [work, working] at stopped
      | interrupted => exact absurd working (Bool.eq_false_iff.mp stopped)
      | failed fault => rfl
  | taken there =>
      cases takes_of_take? there <;> exact absurd working (Bool.eq_false_iff.mp stopped)
  | silent _ => exact absurd working (Bool.eq_false_iff.mp stopped)

/-- A history from a reader whose worker reads to one whose worker has stopped has a read with which
it stopped, by induction on the history.
-/
theorem History.stopped (history : History stream reader events last)
    (working : reader.working = true) (stopped : last.working = false)
    : ∃ answer, .read answer ∈ events ∧ answer.stops = true := by
  induction history with
  | nil _ => exact absurd working (Bool.eq_false_iff.mp stopped)
  | @cons _ next _ _ _ happens _ ih =>
      cases still : next.working with
      | true =>
          obtain ⟨answer, made, stops⟩ := ih still stopped
          exact ⟨answer, List.mem_cons_of_mem _ made, stops⟩
      | false =>
          obtain ⟨answer, rfl, stops⟩ := happens.stopped working still
          exact ⟨answer, List.mem_cons_self, stops⟩

/-- When the stream is over, whoever asks meets the end, and nothing else happens. -/
theorem Happens.of_spent (happens : Happens stream spent event next)
    : next = spent ∧ ∃ limit, event = .asked limit .ended := by
  cases happens with
  | read working _ => cases working
  | taken there =>
      cases there
      exact ⟨rfl, _, rfl⟩
  | silent unclosed => cases unclosed

/-- A stream that is over stays so, by induction on the history. -/
theorem History.of_spent (history : History stream reader events last) (begun : reader = spent)
    : last = spent ∧ ∀ event ∈ events, ∃ limit, event = .asked limit .ended := by
  induction history with
  | nil _ => exact ⟨begun, fun event member => by cases member⟩
  | cons happens _ ih =>
      subst begun
      obtain ⟨same, asked⟩ := happens.of_spent
      obtain ⟨stays, ends⟩ := ih same
      exact ⟨stays, List.forall_mem_cons.mpr ⟨asked, ends⟩⟩

/-- An interrupted read and a limit that runs out change nothing. -/
theorem Happens.eq_of_not_matters (happens : Happens stream reader event next)
    (idle : event.matters = false)
    : next = reader := by
  cases happens with
  | @read answer _ _ =>
      cases answer with
      | octets _ => cases idle
      | interrupted => rfl
      | failed _ => cases idle
  | taken there => cases takes_of_take? there <;> cases idle
  | silent _ => rfl

/-- Without interrupted reads and limits that run out a history leads to the same reader, by
induction on the history.
-/
theorem History.filter_matters (history : History stream reader events last)
    : History stream reader (events.filter Event.matters) last := by
  induction history with
  | nil reader => exact .nil reader
  | @cons _ _ _ event _ happens _ ih =>
      cases matters : event.matters with
      | true =>
          rw [List.filter_cons_of_pos matters]
          exact .cons happens ih
      | false =>
          rw [List.filter_cons_of_neg (Bool.eq_false_iff.mp matters)]
          exact happens.eq_of_not_matters matters ▸ ih

-----------------------------------------------------------------------------------------
-- What those who ask are given
-----------------------------------------------------------------------------------------

/-- What is in the queue, or was taken from it, the worker has read. -/
theorem History.read_of_mem (history : History stream {} events last)
    {message : Except Fault Octets}
    (member : message ∈ events.flatMap Event.taken ++ last.queue)
    : ∃ answer, .read answer ∈ events ∧ message ∈ answer.messages := by
  rw [← history.queue_eq, List.nil_append, List.mem_flatMap] at member
  obtain ⟨event, made, put⟩ := member
  cases event with
  | read answer => exact ⟨answer, made, put⟩
  | asked _ _ => cases put

/-- A chunk with which one who asked was answered is one that the worker has read. -/
theorem History.sizes {limit : Option Duration} {octets : Octets}
    (history : History stream {} events last) (given : .asked limit (.chunk octets) ∈ events)
    : octets ≠ [] ∧ octets.length ≤ 8192 := by
  have taken : .ok octets ∈ events.flatMap Event.taken :=
    List.mem_flatMap.mpr ⟨_, given, List.mem_singleton_self _⟩
  obtain ⟨answer, made, put⟩ := history.read_of_mem (List.mem_append_left _ taken)
  obtain ⟨rfl, nonempty⟩ := SourceAnswer.eq_octets put
  exact ⟨nonempty, history.fits made⟩

/-- A history around an answer has a reader in one of the stages before it. -/
theorem History.split_asked {before after : List Event} {limit : Option Duration}
    {answer : Reception}
    (history : History stream {} (before ++ .asked limit answer :: after) last)
    : ∃ middle next,
        History stream {} before middle
          ∧ Stage middle
          ∧ Happens stream middle (.asked limit answer) next
          ∧ History stream next after last := by
  obtain ⟨middle, first, rest⟩ := history.split
  cases rest with
  | cons happens rest =>
      exact ⟨middle, _, first, first.stage (.reading []), happens, rest⟩

/-- What leads from a drained reader whose worker has stopped to the one that is over is final. -/
theorem History.final {before after : List Event} (first : History stream {} before reader)
    (drained : reader.queued = []) (stopped : reader.working = false)
    (rest : History stream spent after last)
    : Final stream before after last := by
  obtain ⟨rfl, ends⟩ := rest.of_spent rfl
  have nothing : after.flatMap Event.brought = [] := by
    refine List.flatMap_eq_nil_iff.mpr fun event member => ?_
    obtain ⟨limit, rfl⟩ := ends event member
    rfl
  have all : before.flatMap Event.brought = before.flatMap Event.returned ++ reader.queued :=
    first.queued_eq
  refine ⟨?_, first.stopped rfl stopped, ends, rfl⟩
  rw [List.flatMap_append, nothing, List.append_nil, all, drained, List.append_nil]

/-- The end is met only when all was returned, and is final. -/
theorem History.ended {before after : List Event} {limit : Option Duration}
    (history : History stream {} (before ++ .asked limit .ended :: after) last)
    : Final stream before after last := by
  obtain ⟨middle, next, first, stage, happens, rest⟩ := history.split_asked
  cases happens with
  | taken there =>
      cases stage.yields there with
      | ended drained stopped => exact first.final (by rw [queued, drained]; rfl) stopped rest

/-- A fault is one of a read of the worker, is met only when all was returned, and is final. -/
theorem History.faulted {before after : List Event} {limit : Option Duration}
    {asked : Stream} {fault : Fault}
    (history
      : History stream {} (before ++ .asked limit (.failed (.receive asked fault)) :: after) last)
    : asked = stream ∧ .read (.failed fault) ∈ before ∧ Final stream before after last := by
  obtain ⟨middle, next, first, stage, happens, rest⟩ := history.split_asked
  cases happens with
  | taken there =>
      cases stage.yields there with
      | fault drained stopped =>
          obtain ⟨answer, made, put⟩ := first.read_of_mem
            (List.mem_append_right _ (drained ▸ List.mem_singleton_self _))
          cases SourceAnswer.eq_failed put
          exact ⟨rfl, made, first.final (by rw [queued, drained]; rfl) stopped rest⟩

/-- No more than one fault is reported: it is final. -/
theorem History.once (history : History stream {} events last)
    : (events.filterMap Event.fault?).length ≤ 1 := by
  cases reported : events.filterMap Event.fault? with
  | nil => exact Nat.zero_le 1
  | cons fault others =>
      obtain ⟨before, event, after, rfl, -, isFault, rest⟩ :=
        List.filterMap_eq_cons_iff.mp reported
      obtain ⟨limit, asked, rfl⟩ := Event.eq_of_fault? isFault
      obtain ⟨-, -, final⟩ := history.faulted
      have no : after.filterMap Event.fault? = [] := by
        refine List.filterMap_eq_nil_iff.mpr fun event member => ?_
        obtain ⟨limit, rfl⟩ := final.ends event member
        rfl
      rw [← rest, no]
      exact Nat.le_refl 1

/-- Whatever happens to a reader, and in whatever order, those who ask are given what its worker
reads, once and in order, and meet the end of the stream or its fault behind all of it.
-/
theorem history_delivers (history : History stream {} events last)
    : Delivered stream events last where
  conserved := history.queued_eq.symm
  prompt := (history.stage (.reading [])).prompt
  sizes := history.sizes
  undisturbed := history.filter_matters
  once := history.once
  faulted := by
    rintro before limit asked fault after rfl
    exact history.faulted
  ended := by
    rintro before limit after rfl
    exact history.ended

/-- A limit runs out between an interrupted read and one that brings a chunk, and once more while
that chunk is in the queue; the fault is met behind both chunks, and then the end.
-/
theorem history_delivers_before_fault
    : let fault : Fault := .system 5
      let limit : Duration := .milliseconds 5
      let events : List Event := [
        .read .interrupted,
        .asked (some limit) (.failed (.silence limit)),
        .read (.octets [97, 98]),
        .asked (some limit) (.failed (.silence limit)),
        .asked none (.chunk [97, 98]),
        .read (.octets [99]),
        .read (.failed fault),
        .asked (some limit) (.chunk [99]),
        .asked (some limit) (.failed (.receive .stderr fault)),
        .asked none .ended
      ]
      History .stderr {} events spent ∧ Delivered .stderr events spent := by
  intro fault limit events
  have history : History .stderr {} events spent :=
    .cons (.read rfl trivial) <|
    .cons (.silent rfl) <|
    .cons (.read rfl (by decide : 2 ≤ readSize)) <|
    .cons (.silent rfl) <|
    .cons (.taken rfl) <|
    .cons (.read rfl (by decide : 1 ≤ readSize)) <|
    .cons (.read rfl trivial) <|
    .cons (.taken rfl) <|
    .cons (.taken rfl) <|
    .cons (.taken rfl) <|
    .nil spent
  exact ⟨history, history_delivers history⟩

end Reader

end Dialogue
