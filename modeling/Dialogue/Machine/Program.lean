import Dialogue.FileTree.Lookup

/-!
Running programs. A program is the tree of what it asks the system for: at each node it asks for
one thing, and each answer leads on to a further tree. Descriptors are numbers that a process
gives to what it has open.
-/

namespace Dialogue

/-- How a process ended. -/
inductive Ending
  | exited (code : Nat)
  | killed (signal : Nat)
deriving Repr, DecidableEq

/-- How a file is opened. -/
inductive OpenMode
  /-- To be read; it must be there. -/
  | read
  /-- To be written anew. -/
  | write
  /-- To be written at its end. -/
  | append
  /-- To be read and written; it is made if it is not there. -/
  | update
  /-- To be written; no file may be there yet, but a device may. -/
  | create
deriving Repr, DecidableEq

/-- What sort of node is found at a path. -/
inductive NodeSort
  | file
  | folder
  | link
  | device
  | pipe
deriving Repr, DecidableEq

/-- What is found at a path, or behind a descriptor. -/
structure NodeKind where
  sort : NodeSort
  isRunnable : Bool
  size : Nat
  /-- The time of its last change. -/
  changed : Nat := 0
  /-- Where it is, which tells it from others. -/
  place : Node.Place := []
deriving Repr, DecidableEq

/-- Whether a folder was found. -/
def NodeKind.isFolder (kind : NodeKind) : Bool := kind.sort == .folder

/-- What a process does about a signal that would end it. -/
inductive Response
  /-- It ends. -/
  | ends
  /-- Nothing. -/
  | ignores
  /-- It takes note of it. -/
  | notes
deriving Repr, DecidableEq

/-- What comes of waiting for a child. -/
inductive Awaited
  /-- The child has ended. -/
  | ended (how : Ending)
  /-- There is no such child. -/
  | absent
  /-- This signal was noted before it ended. -/
  | interrupted (signal : Nat)
deriving Repr, DecidableEq

/-- The variables that a program is started with. -/
abbrev Variables := List (Octets × Octets)

/-- Variables of which one has another value, or that have one more. -/
def Variables.put (name value : Octets) : Variables → Variables
  | [] => [(name, value)]
  | (other, old) :: rest =>
    if other = name then (name, value) :: rest else (other, old) :: Variables.put name value rest

/-- A variable has the value that it was put to. -/
theorem Variables.lookup_put (name value : Octets) (vars : Variables)
    : (Variables.put name value vars).lookup name = some value := by
  induction vars with
  | nil => simp [Variables.put]
  | cons entry rest ih =>
      obtain ⟨other, old⟩ := entry
      by_cases h : other = name
      · simp [Variables.put, h]
      · have : (name == other) = false := by simpa using fun e => h e.symm
        simp [Variables.put, h, List.lookup_cons, this, ih]

/-- A running program. -/
inductive Program
  /-- It ends. -/
  | exit (code : Nat)
  /-- It works for a moment without asking for anything. -/
  | pass (next : Unit → Program)
  /-- It waits until a descriptor can be read, or a signal was noted. The answer says that it was
  the signal. -/
  | await (descriptor : Nat) (next : Bool → Program)
  /-- It reads at most so many octets; none come at the end. -/
  | read (descriptor count : Nat) (next : Except Fault Octets → Program)
  /-- It writes all these octets. -/
  | write (descriptor : Nat) (octets : Octets) (next : Except Fault Unit → Program)
  /-- It opens a file under the lowest free descriptor. -/
  | openFile (path : Path) (mode : OpenMode) (next : Except Fault Nat → Program)
  /-- It puts a new file in the place of what is at a path. -/
  | replace (path : Path) (content : Octets) (next : Except Fault Unit → Program)
  /-- It makes a descriptor stand for what another one stands for. -/
  | duplicate (source target : Nat) (next : Except Fault Unit → Program)
  /-- It keeps what a descriptor stands for under a free one from 10 on, if it is open. -/
  | save (descriptor : Nat) (next : Option Nat → Program)
  /-- It closes a descriptor. -/
  | close (descriptor : Nat) (next : Unit → Program)
  /-- It goes back by so many octets in the file that a descriptor stands for, if it is one. -/
  | goBack (descriptor count : Nat) (next : Unit → Program)
  /-- It opens a pipe, the reading end and the writing end. -/
  | pipe (next : Nat × Nat → Program)
  /-- It starts a copy of itself that goes on as another program. -/
  | fork (child : Program) (next : Nat → Program)
  /-- It becomes the program in a file. -/
  | execute (path : Path) (arguments : List Octets) (vars : Variables)
      (failed : Fault → Program)
  /-- It waits for the end of a child, which is then gone. The flag says that a signal that is
  noted ends the waiting. -/
  | wait (child : Nat) (interruptible : Bool) (next : Awaited → Program)
  /-- It asks whether a child still runs. -/
  | isRunning (child : Nat) (next : Bool → Program)
  /-- It sends a signal to a process. -/
  | kill (process signal : Nat) (next : Except Fault Unit → Program)
  /-- It sets what it does about a signal from now on. -/
  | respond (signal : Nat) (response : Response) (next : Unit → Program)
  /-- It asks for the signals that it ignores. -/
  | ignored (next : List Nat → Program)
  /-- It asks for the signals it has taken note of since it last asked. -/
  | signals (next : List Nat → Program)
  /-- It sleeps for so many nanoseconds. -/
  | sleep (nanoseconds : Nat) (next : Unit → Program)
  /-- It goes to another directory. -/
  | changeDirectory (path : Path) (next : Except Fault Unit → Program)
  /-- It asks where it is. -/
  | currentDirectory (next : Path → Program)
  /-- It asks for its own number and for that of the process that started it. -/
  | identity (next : Nat × Nat → Program)
  /-- It asks for its mask of permissions, and may set another. -/
  | mask (new : Option Nat) (next : Nat → Program)
  /-- It asks what is at a path. The flag says that a link at the end is followed. -/
  | inspect (path : Path) (last : Bool) (next : Except Fault NodeKind → Program)
  /-- It asks what a descriptor stands for. -/
  | describe (descriptor : Nat) (next : Except Fault NodeKind → Program)
  /-- It asks for the names in a directory. -/
  | list (path : Path) (next : Except Fault (List Octets) → Program)

namespace Program

/-- Writes octets, and goes on in any case. -/
def emit (descriptor : Nat) (octets : Octets) (next : Unit → Program) : Program :=
  if octets = [] then next () else .write descriptor octets fun _ => next ()

/-- Writes one output and ends. -/
def answer (octets : Octets) (code : Nat) : Program :=
  emit 1 octets fun _ => .exit code

/-- Writes a complaint and ends. -/
def complain (text : String) (code : Nat) : Program :=
  emit 2 (Text.octets text) fun _ => .exit code

end Program

/-- The programs that a machine provides, by name. They are given their arguments, the first of
which is the name they were started by, and their variables. -/
abbrev Catalogue := String → Option (List Octets → Variables → Program)

end Dialogue
