import Dialogue.Proofs.Session.Logging

/-!
Sessions under any operations. Each stream is a queue: what its operations hand out and what is still
pending is what was put on it, in order, whatever is done to the other stream and to the log in
between. The log grows at its end, by whole lines.
-/

namespace Dialogue.Session

-----------------------------------------------------------------------------------------
-- Operations
-----------------------------------------------------------------------------------------

/-- What can be done to a session. -/
inductive Operation
  | append (stream : Stream) (octets : Octets)
  | consume (stream : Stream) (count : Nat)
  | take (stream : Stream)
  | note (text : String)
  | noteTaken (stream : Stream) (octets : Octets)

/-- An operation and the octets that it handed out. -/
structure Performed where
  operation : Operation
  handed : Octets

/-- Does something to a session. What is no consuming and no taking hands out nothing. -/
def perform (session : Session) : Operation → Octets × Session
  | .append stream octets => ([], session.append stream octets)
  | .consume stream count => session.consume stream count
  | .take stream => session.take stream
  | .note text => ([], session.note text)
  | .noteTaken stream octets => ([], session.noteTaken stream octets)

/-- Does one thing after the other to a session. -/
def performAll (session : Session) : List Operation → List Performed × Session
  | [] => ([], session)
  | operation :: rest =>
    let (handed, next) := session.perform operation
    let (others, final) := next.performAll rest
    (⟨operation, handed⟩ :: others, final)

namespace Operation

/-- The stream on which an operation works; one on the log works on none. -/
def stream? : Operation → Option Stream
  | .append stream _ => some stream
  | .consume stream _ => some stream
  | .take stream => some stream
  | .note _ => none
  | .noteTaken _ _ => none

/-- What an operation puts on a stream. -/
def puts (asked : Stream) : Operation → Octets
  | .append stream octets => if stream = asked then octets else []
  | _ => []

/-- What an operation logs. -/
def entries : Operation → List String
  | .note text => [text]
  | .noteTaken stream octets => stream.entries octets
  | _ => []

end Operation

/-- What an operation handed out from a stream. -/
def Performed.hands (asked : Stream) : Performed → Octets
  | ⟨.consume stream _, handed⟩ => if stream = asked then handed else []
  | ⟨.take stream, handed⟩ => if stream = asked then handed else []
  | _ => []

/-- What an operation does to a session: what it hands out, and the session after it. -/
structure Changes (session : Session) (operation : Operation) (handed : Octets)
    (next : Session) : Prop where
  consumed
    : ∀ {stream : Stream} {count : Nat},
        operation = .consume stream count
        → handed.length = min count (session.pending stream).length
  taken : ∀ {stream : Stream}, operation = .take stream → next.pending stream = []
  /-- Other streams than the one on which it works are left alone. -/
  apart
    : ∀ {stream : Stream},
        operation.stream? ≠ some stream → next.pending stream = session.pending stream
  exitCode : next.exitCode = session.exitCode
  /-- What works on a stream logs nothing. -/
  unlogged : operation.stream? ≠ none → next.log = session.log
  logs : next.log = session.log ++ logged operation.entries

/-- What a new session comes to under operations. -/
structure Queues (operations : List Operation) (history : List Performed) (session : Session)
    : Prop where
  performed : history.map Performed.operation = operations
  /-- What was handed out and what is pending is what was put on a stream. -/
  ordered
    : ∀ stream,
        history.flatMap (Performed.hands stream) ++ session.pending stream
          = operations.flatMap (Operation.puts stream)
  log : session.log = logged (operations.flatMap Operation.entries)
  lined : Lined session.log
  /-- A further operation starts from here, and the history goes on with what it hands out. -/
  next
    : ∀ operation, ∃ handed next,
        ({} : Session).performAll (operations ++ [operation])
            = (history ++ [⟨operation, handed⟩], next)
          ∧ session.Changes operation handed next

-----------------------------------------------------------------------------------------
-- One operation
-----------------------------------------------------------------------------------------

variable (session : Session)

/-- An operation logs its entries behind the others, by cases on the operation. -/
theorem log_perform (operation : Operation)
    : (session.perform operation).2.log = session.log ++ logged operation.entries := by
  cases operation with
  | append stream octets => simp [perform, Operation.entries]
  | consume stream count => simp [perform, consume, Operation.entries]
  | take stream => simp [perform, take, Operation.entries]
  | note text => exact log_note ..
  | noteTaken stream octets => exact log_noteTaken ..

/-- An operation changes nothing but its own stream or the log, by cases on the operation. -/
theorem perform_changes (operation : Operation)
    : session.Changes operation (session.perform operation).1
        (session.perform operation).2 := by
  refine ⟨?consumed, ?taken, ?apart, ?exitCode, ?unlogged, session.log_perform operation⟩
  case consumed =>
    rintro stream count rfl
    exact List.length_take
  case taken =>
    rintro stream rfl
    exact pending_setPending ..
  case apart =>
    intro stream other
    have apart {asked : Stream} (works : operation.stream? = some asked) : stream ≠ asked := by
      rintro rfl
      exact other works
    cases operation with
    | append asked octets => exact pending_append_of_ne (apart rfl) ..
    | consume asked count => exact pending_setPending_of_ne (apart rfl) ..
    | take asked => exact pending_setPending_of_ne (apart rfl) ..
    | note text => exact pending_note ..
    | noteTaken asked octets => exact pending_noteTaken ..
  case exitCode =>
    cases operation with
    | append stream octets => exact exitCode_setPending ..
    | consume stream count => exact exitCode_setPending ..
    | take stream => exact exitCode_setPending ..
    | note text => rfl
    | noteTaken stream octets => exact exitCode_noteTaken ..
  case unlogged =>
    intro works
    cases operation with
    | append stream octets => exact log_append ..
    | consume stream count => exact log_setPending ..
    | take stream => exact log_setPending ..
    | note text => exact absurd rfl works
    | noteTaken stream octets => exact absurd rfl works

section Streams

variable {operation : Operation} {stream : Stream}

/-- An operation puts nothing on a stream on which it does not work. -/
theorem Operation.puts_of_ne (other : operation.stream? ≠ some stream)
    : operation.puts stream = [] := by
  cases operation with
  | append asked octets =>
      have ne : asked ≠ stream := fun same => other (congrArg some same)
      exact if_neg ne
  | consume | take | note | noteTaken => rfl

/-- An operation hands out nothing from a stream on which it does not work. -/
theorem Performed.hands_of_ne (other : operation.stream? ≠ some stream) (handed : Octets)
    : Performed.hands stream ⟨operation, handed⟩ = [] := by
  cases operation with
  | consume asked count =>
      have ne : asked ≠ stream := fun same => other (congrArg some same)
      exact if_neg ne
  | take asked =>
      have ne : asked ≠ stream := fun same => other (congrArg some same)
      exact if_neg ne
  | append | note | noteTaken => rfl

end Streams

/-- An operation takes from the front of a stream and puts behind it. Witness: on its own stream by
cases on the operation; it leaves every other one alone.
-/
theorem perform_ordered (operation : Operation) (stream : Stream)
    : session.pending stream ++ operation.puts stream
      = Performed.hands stream ⟨operation, (session.perform operation).1⟩
        ++ (session.perform operation).2.pending stream := by
  by_cases works : operation.stream? = some stream
  · cases operation with
    | append asked octets =>
        cases works
        simp [perform, Operation.puts, Performed.hands]
    | consume asked count =>
        cases works
        simp [perform, consume, Operation.puts, Performed.hands]
    | take asked =>
        cases works
        simp [perform, take, Operation.puts, Performed.hands]
    | note text => cases works
    | noteTaken asked octets => cases works
  · rw [(session.perform_changes operation).apart works, Operation.puts_of_ne works,
      Performed.hands_of_ne works, List.append_nil, List.nil_append]

-----------------------------------------------------------------------------------------
-- Any operations
-----------------------------------------------------------------------------------------

variable (operations : List Operation)

/-- All operations are made, in order. -/
theorem map_operation_performAll
    : (session.performAll operations).1.map Performed.operation = operations := by
  induction operations generalizing session with
  | nil => rfl
  | cons operation rest ih => exact congrArg (operation :: ·) (ih _)

/-- A further operation is made where the others led, by induction on them. -/
theorem performAll_concat (operation : Operation)
    : session.performAll (operations ++ [operation])
      = let (history, reached) := session.performAll operations
        let (handed, next) := reached.perform operation
        (history ++ [⟨operation, handed⟩], next) := by
  induction operations generalizing session with
  | nil => rfl
  | cons first rest ih => simp only [List.cons_append, performAll, ih]

/-- What operations hand out and leave pending on a stream is what was pending there and what they
put behind it, by induction on them: each takes from the front what the ones before it left.
-/
theorem performAll_ordered (stream : Stream)
    : session.pending stream ++ operations.flatMap (Operation.puts stream)
      = (session.performAll operations).1.flatMap (Performed.hands stream)
        ++ (session.performAll operations).2.pending stream := by
  induction operations generalizing session with
  | nil => simp [performAll]
  | cons operation rest ih =>
      have first := session.perform_ordered operation stream
      have others := ih (session.perform operation).2
      simp only [performAll, List.flatMap_cons]
      rw [← List.append_assoc, first, List.append_assoc, others, List.append_assoc]

/-- Operations log their entries in order, by induction on them. -/
theorem log_performAll
    : (session.performAll operations).2.log
      = session.log ++ logged (operations.flatMap Operation.entries) := by
  induction operations generalizing session with
  | nil => simp [performAll]
  | cons operation rest ih =>
      simp only [performAll, List.flatMap_cons, logged_append]
      rw [ih, log_perform, String.append_assoc]

/-- A session is two queues and a log. Whatever is done to it from its beginning on, what each stream
hands out and what is pending there is what was put on it, in order; the log is that of the entries,
whole line by whole line; and no operation does more than to its own stream or to the end of the log.
-/
theorem session_queues_streams
    : Queues operations (({} : Session).performAll operations).1
        (({} : Session).performAll operations).2 where
  performed := map_operation_performAll {} operations
  ordered stream := by
    have ordered := performAll_ordered {} operations stream
    cases stream <;> exact ordered.symm
  log := by
    rw [log_performAll]
    exact String.empty_append
  lined := by
    rw [log_performAll]
    exact Lined.append_logged (.inl rfl) _
  next operation :=
    ⟨_, _, performAll_concat {} operations operation, perform_changes _ operation⟩

end Dialogue.Session
