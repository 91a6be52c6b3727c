import Dialogue.Machine.Program
import Dialogue.Peer.Basic

/-!
Processes: what they have open, what they do about signals, and whether they run.
-/

namespace Dialogue.Machine

open Node (Place)

/-- What a descriptor stands for. -/
inductive Endpoint
  | reading (pipe : Nat)
  | writing (pipe : Nat)
  /-- A stream whose writes are noted. -/
  | observed (stream : Stream)
  /-- A file that was opened, by the number of its opening. -/
  | opened (number : Nat)
  | folder (place : Place)
  | device (device : Device)
deriving Repr, DecidableEq

/-- Whether a process runs. -/
inductive Condition
  | running (program : Program)
  | ended (how : Ending)

/-- A process. -/
structure Process where
  id : Nat
  parent : Nat
  /-- It does nothing before this time. -/
  ready : Nat
  directory : Place
  descriptors : List (Nat × Endpoint)
  condition : Condition
  /-- A signal has stopped it until another one lets it go on. -/
  stopped : Bool := false
  /-- Its mask of permissions. -/
  mask : Nat := 18
  /-- What it does about signals, where that is not to end. -/
  responses : List (Nat × Response) := []
  /-- The signals it has taken note of, the latest first. -/
  noticed : List Nat := []

/-- The signals that nobody minds who does not ask for them. -/
def harmlessSignals : List Nat := [17, 18, 23, 28]

/-- The signals that stop a process. -/
def stopSignals : List Nat := [19, 20, 21, 22]

/-- The signal that lets a stopped process go on. -/
def continueSignal : Nat := 18

namespace Process

/-- What a descriptor stands for. -/
def endpoint? (p : Process) (descriptor : Nat) : Option Endpoint :=
  p.descriptors.lookup descriptor

/-- A process that has not got a descriptor. -/
def without (p : Process) (descriptor : Nat) : Process :=
  { p with descriptors := p.descriptors.filter (·.1 != descriptor) }

/-- A process with a descriptor that stands for something else. -/
def withEndpoint (p : Process) (descriptor : Nat) (e : Endpoint) : Process :=
  { p with descriptors := (descriptor, e) :: (p.without descriptor).descriptors }

/-- The lowest free descriptor from a number on. -/
def freeFrom (p : Process) (least : Nat) : Nat :=
  ((List.range (p.descriptors.length + 1)).map (· + least)).find?
    (fun n => (p.endpoint? n).isNone) |>.getD least

/-- A process that goes on with a program. -/
def goOn (p : Process) (program : Program) : Process :=
  { p with condition := .running program }

/-- A process that has ended. Everything it had open is closed. -/
def finish (p : Process) (how : Ending) : Process :=
  { p with condition := .ended how, descriptors := [] }

/-- What a process does about a signal. Nothing can be done about one that ends it by force. -/
def response (p : Process) (signal : Nat) : Response :=
  if signal = 9 then .ends else (p.responses.lookup signal).getD .ends

/-- A process that another signal has reached. -/
def receive (p : Process) (signal : Nat) : Process :=
  let p := if signal = continueSignal then { p with stopped := false } else p
  if signal = 19 then { p with stopped := true }
  else
    match p.response signal with
    | .ends =>
      if harmlessSignals.contains signal then p
      else if stopSignals.contains signal then { p with stopped := true }
      else p.finish (.killed signal)
    | .ignores => p
    | .notes =>
      if p.noticed.contains signal then p else { p with noticed := signal :: p.noticed }

/-- A process that starts another program. It does about signals what is always done, unless it
ignores them. -/
def become (p : Process) (program : Program) (ready : Nat) : Process :=
  { p with
    ready
    condition := .running program
    descriptors := p.descriptors.filter (·.1 < 10)
    responses := p.responses.filter (·.2 == .ignores)
    noticed := [] }

/-- Whether a process runs. -/
def isRunning (p : Process) : Bool :=
  match p.condition with
  | .running _ => true
  | .ended _ => false

end Process

end Dialogue.Machine
