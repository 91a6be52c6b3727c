import Dialogue.Child.Basic
import Dialogue.Machine.SearchPath
import Dialogue.Machine.Turn

/-!
A process under observation, as the system of a child: its input is the outer end of a pipe, its
answers are the writes that were noted.
-/

namespace Dialogue.Machine

/-- A machine with the number of the process under observation and the programs it can start. -/
structure Observed where
  world : World
  process : Nat
  catalogue : Catalogue

namespace Observed

/-- How many turns one request of an observer may take. -/
def mostTurns : Nat := 20000000

/-- Whether nobody can write to a stream any more. -/
def streamEnded (w : World) (stream : Stream) : Bool :=
  !w.isOpen (.observed stream)

/-- Whether there is an answer to a read on a stream. -/
def hasAnswer (stream : Stream) (w : World) : Bool :=
  w.noted.any (·.1 == stream) || streamEnded w stream

/-- The answers there are: what was noted, and the end of each stream that has ended. -/
def answers (w : World) : List (Stream × SourceAnswer) :=
  let noted := w.noted.reverse.map fun (stream, octets) => (stream, SourceAnswer.octets octets)
  let ended := [Stream.stdout, Stream.stderr].filter (streamEnded w)
  noted ++ ended.map fun stream => (stream, .octets [])

/-- Runs until there is an answer to a read. -/
def collect (o : Observed) (stream : Stream) (limit : Option Duration) :
    List (Stream × SourceAnswer) × Observed :=
  let deadline := limit.map fun limit => o.world.clock + limit.nanoseconds
  let (_, w) := o.world.runUntil o.catalogue (hasAnswer stream) deadline mostTurns
  (answers w, { o with world := { w with noted := [] } })

/-- How the process ended, if it has. -/
def ending? (o : Observed) (w : World) : Option Ending :=
  match w.process? o.process with
  | some p =>
    match p.condition with
    | .ended how => some how
    | .running _ => none
  | none => none

/-- The exit code that an ending shows. -/
def exitCode : Ending → Option Int
  | .exited code => some code
  | .killed _ => none

/-- Writes to the input. -/
def write (o : Observed) (octets : Octets) : Except Fault Unit × Observed :=
  match o.world.input with
  | none => (.error .brokenPipe, o)
  | some pipe =>
    if o.world.isOpen (.reading pipe) then
      let w := o.world.setContents pipe (o.world.contents pipe ++ octets)
      (.ok (), { o with world := w })
    else (.error .brokenPipe, o)

/-- Runs until the process has ended. -/
def wait (o : Observed) : Except Fault (Option Int) × Observed :=
  let (_, w) := o.world.runUntil o.catalogue (fun w => (o.ending? w).isSome) none mostTurns
  match o.ending? w with
  | some how => (.ok (exitCode how), { o with world := w })
  | none => (.error (.system 10), { o with world := w })

/-- The signal that ends a process by force. -/
def forceSignal : Nat := 9

instance : ChildSystem Observed where
  write := write
  closeInput o := { o with world := { o.world with input := none } }
  collect := collect
  wait := wait
  hasEnded o := (.ok (o.ending? o.world).isSome, o)
  kill o := { o with world := (o.world.signal o.process forceSignal).toOption.getD o.world }

/-- Loads the first program that can be loaded. A candidate that is not there is passed over; one
to which there is no access is reported only if there is no other. -/
def loadFirst (catalogue : Catalogue) (tree : FileTree) (arguments : List Octets)
    (vars : Variables) (refused : Fault) : List Path → Except Fault Program
  | [] => .error refused
  | path :: rest =>
    match load catalogue tree vars interpreterDepth path arguments with
    | .ok program => .ok program
    | .error fault =>
      -- A place in the search path that is no directory is as good as one without the program.
      if fault = .noEntry ∨ fault = .notDirectory then
        loadFirst catalogue tree arguments vars refused rest
      else if fault = .noAccess then loadFirst catalogue tree arguments vars fault rest
      else .error fault

/-- Starts a program in a directory, with its three streams connected. -/
def start (catalogue : Catalogue) (tree : FileTree) (vars : Variables) (program : Path)
    (arguments : List Octets) (directory : Path) : Except Fault (Child Observed) :=
  if (program :: directory :: arguments).any (·.contains 0) then .error .zeroInArguments
  else
    match tree.enter directory with
    | .error fault => .error fault
    | .ok tree =>
      match candidates (searchPathOf vars) program with
      | [] => .error .noEntry
      | paths =>
        match loadFirst catalogue tree (program :: arguments) vars .noEntry paths with
        | .error fault => .error fault
        | .ok running =>
          let input := 0
          let id := 100
          let process : Process :=
            { id, parent := 1, ready := startTime, directory := tree.current
              descriptors :=
                [(0, .reading input), (1, .observed .stdout), (2, .observed .stderr)]
              condition := .running running }
          let world : World :=
            { root := tree.root, processes := [process], pipes := [(input, [])]
              input := some input }
          .ok { system := ⟨world, id, catalogue⟩ }

end Observed

end Dialogue.Machine
