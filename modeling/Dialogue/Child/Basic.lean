import Dialogue.Child.Reader

/-!
A child: a program that was started with its three streams connected. Its input stays open until
the child stops reading or is waited for, and never opens again; its exit code is asked for until
it is known, and then remembered. That it passes on only so many chunks is the one thing here
without a counterpart in a running program.
-/

namespace Dialogue

/-- What a child needs of the system it runs on. -/
class ChildSystem (ω : Type) where
  /-- Writes to the input of the child. -/
  write : ω → Octets → Except Fault Unit × ω
  /-- Closes the input of the child. -/
  closeInput : ω → ω
  /-- Waits until there is an answer to a read on one of the streams, at most for the limit. The
  answers that came on both streams are returned, the earliest first. -/
  collect : ω → Stream → Option Duration → List (Stream × SourceAnswer) × ω
  /-- Waits for the end of the child. -/
  wait : ω → Except Fault (Option Int) × ω
  /-- Whether the child has ended. -/
  hasEnded : ω → Except Fault Bool × ω
  /-- Ends the child by force. -/
  kill : ω → ω

/-- A child and what is known of it. -/
structure Child (ω : Type) where
  system : ω
  /-- Its input is open. -/
  inputOpen : Bool := true
  /-- It has stopped reading its input. -/
  readerGone : Bool := false
  stdout : Reader := {}
  stderr : Reader := {}
  /-- Its exit code once it is known; there is none after a signal. -/
  exitCode : Option (Option Int) := none
  /-- How many more chunks are passed on. A running program has no such bound and may write for
  ever. It is here so that a play with a child comes to an end, and what is said of the reads of a
  child is said where it suffices. -/
  allowance : Nat := 16777216

namespace Child

variable {ω : Type}

/-- The reader of a stream. -/
def reader (child : Child ω) : Stream → Reader
  | .stdout => child.stdout
  | .stderr => child.stderr

/-- A child with another reader of a stream. -/
def setReader (child : Child ω) (stream : Stream) (reader : Reader) : Child ω :=
  match stream with
  | .stdout => { child with stdout := reader }
  | .stderr => { child with stderr := reader }

/-- Hands an answer of the source to the reader of its stream. -/
def absorb (child : Child ω) (answer : Stream × SourceAnswer) : Child ω :=
  match answer with
  | (stream, .octets (b :: octets)) =>
    child.setReader stream ((child.reader stream).workAll (b :: octets))
  | (stream, other) => child.setReader stream ((child.reader stream).work other)

/-- The fault of a write after the input was closed. -/
def inputClosed : Fault := .described .brokenPipe (some "stdin already closed")

/-- Passes on what there is on a stream. A chunk for which the allowance is used up is kept back, and
the stream counts as ended; with a running program this does not happen. -/
def pass (child : Child ω) (stream : Stream) : Option (Reception × Child ω) :=
  match (child.reader stream).take? stream with
  | none => none
  | some (.chunk octets, reader) =>
    match child.allowance with
    | 0 => some (.ended, child)
    | left + 1 => some (.chunk octets, { child.setReader stream reader with allowance := left })
  | some (.ended, reader) => some (.ended, child.setReader stream reader)
  | some (.failed error, reader) => some (.failed error, child.setReader stream reader)

/-- Every chunk passed on uses up some of the allowance. -/
theorem allowance_pass {child next : Child ω} {stream : Stream} {octets : Octets}
    (h : child.pass stream = some (.chunk octets, next))
    : next.allowance < child.allowance := by
  unfold pass at h
  split at h
  · simp at h
  · split at h
    · simp at h
    · next left hleft =>
        simp only [Option.some.injEq, Prod.mk.injEq] at h
        rw [← h.2, hleft]
        exact Nat.lt_succ_self left
  · simp at h
  · simp at h

/-- Changing a reader leaves the allowance alone. -/
@[simp]
theorem allowance_setReader (child : Child ω) (stream : Stream) (reader : Reader)
    : (child.setReader stream reader).allowance = child.allowance := by
  cases stream <;> rfl

/-- Taking in an answer leaves the allowance alone. -/
theorem allowance_absorb (child : Child ω) (answer : Stream × SourceAnswer)
    : (child.absorb answer).allowance = child.allowance := by
  unfold absorb
  split <;> simp

/-- Taking in answers leaves the allowance alone, by induction on them. -/
theorem allowance_absorbAll (child : Child ω) (answers : List (Stream × SourceAnswer))
    : (answers.foldl absorb child).allowance = child.allowance := by
  induction answers generalizing child with
  | nil => rfl
  | cons answer rest ih => rw [List.foldl_cons, ih, allowance_absorb]

/-- The answer to a read when there is nothing to pass on: silence, if the read has a limit. -/
def nothing (child : Child ω) : Option Duration → Reception × Child ω
  | some limit => (.failed (.silence limit), child)
  | none => (.ended, child)

/-- Where there is nothing to pass on, no chunk is passed on. -/
theorem nothing_ne_chunk (child : Child ω) (limit : Option Duration) (octets : Octets)
    : (child.nothing limit).1 ≠ .chunk octets := by
  cases limit <;> simp [nothing]

variable [ChildSystem ω]

/-- Sends a text to the child. A child that has stopped reading loses it, and that is no error:
what it says decides. -/
def send (child : Child ω) (text : String) : Except PeerError Unit × Child ω :=
  if child.readerGone then (.ok (), child)
  else if !child.inputOpen then (.error (.send inputClosed), child)
  else
    match ChildSystem.write child.system (Text.octets text) with
    | (.ok (), system) => (.ok (), { child with system })
    | (.error fault, system) =>
      -- The input is closed for good; later texts are lost without a word.
      if fault.isBrokenPipe then
        (.ok (), { child with
          system := ChildSystem.closeInput system, inputOpen := false, readerGone := true })
      else (.error (.send fault), { child with system })

/-- A child that has been handed everything that came while it was waited for. -/
def collect (child : Child ω) (stream : Stream) (limit : Option Duration) : Child ω :=
  let (answers, system) := ChildSystem.collect child.system stream limit
  answers.foldl absorb { child with system }

/-- Waits for the next chunk on a stream. -/
def receive (child : Child ω) (stream : Stream) (limit : Option Duration) :
    Reception × Child ω :=
  match child.pass stream with
  | some answer => answer
  | none =>
    let child := child.collect stream limit
    (child.pass stream).getD (child.nothing limit)

/-- Closes the input and waits for the end of the child. A wait that failed is no answer, and the
next one asks again. -/
def wait (child : Child ω) : Except PeerError (Option Int) × Child ω :=
  match child.exitCode with
  | some code => (.ok code, child)
  | none =>
    let system :=
      if child.inputOpen then ChildSystem.closeInput child.system else child.system
    -- The child sees the end of its input before it is waited for.
    match ChildSystem.wait system with
    | (.ok code, system) =>
      (.ok code, { child with system, inputOpen := false, exitCode := some code })
    | (.error fault, system) => (.error (.wait fault), { child with system, inputOpen := false })

/-- Lets go of a child: one that still runs is ended by force. -/
def release (child : Child ω) : ω :=
  match child.exitCode with
  | some _ => child.system
  | none =>
    match ChildSystem.hasEnded child.system with
    | (.ok false, system) => (ChildSystem.wait (ChildSystem.kill system)).2
    | (_, system) => (ChildSystem.wait system).2

/-- Collecting leaves the allowance alone. -/
theorem allowance_collect (child : Child ω) (stream : Stream) (limit : Option Duration)
    : (child.collect stream limit).allowance = child.allowance :=
  allowance_absorbAll _ _

/-- Every chunk received uses up some of the allowance, whether it was there before the read or came
during it. -/
theorem allowance_receive {child next : Child ω} {stream : Stream} {limit : Option Duration}
    {octets : Octets} (h : child.receive stream limit = (.chunk octets, next))
    : next.allowance < child.allowance := by
  unfold receive at h
  split at h
  · next answer hpass => exact allowance_pass (h ▸ hpass)
  · rw [← allowance_collect child stream limit]
    cases hpass : (child.collect stream limit).pass stream with
    | none =>
        simp only [hpass, Option.getD_none] at h
        exact absurd (congrArg Prod.fst h) (nothing_ne_chunk _ _ _)
    | some answer =>
        simp only [hpass, Option.getD_some] at h
        exact allowance_pass (h ▸ hpass)

instance : Peer (Child ω) where
  send := send
  receive := receive
  wait := wait
  supply child := child.allowance
  supply_lt := allowance_receive

end Child

end Dialogue
