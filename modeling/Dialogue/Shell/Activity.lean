import Dialogue.Machine.Signal
import Dialogue.Shell.State
import Dialogue.Tool.Stream

/-!
What a shell does. An activity takes the state, asks the system for what it needs and goes on with
its result and the state after it. An activity may also be broken off: by a fault, or because the
shell ends; whoever runs it may see to that.
-/

namespace Dialogue.Shell

/-- Why an activity is broken off. -/
inductive Raised
  /-- There was a fault, which has been complained about. -/
  | fault
  /-- There is nothing more to be done. -/
  | done
  /-- The shell was told to end. -/
  | told
deriving Repr, DecidableEq

/-- What is done when an activity is broken off: by the one who runs it, and by the process as a
whole. -/
structure Exits where
  raise : Raised → State → Program
  top : Raised → State → Program

/-- Something that a shell does. It is given what is done when it is broken off, the state, and
what is done after it. -/
def Activity (α : Type) : Type := Exits → State → (α → State → Program) → Program

namespace Activity

instance : Monad Activity where
  pure a := fun _ s next => next a s
  bind first after := fun exits s next => first exits s fun a s => after a exits s next

/-- The state. -/
def state : Activity State := fun _ s next => next s s

/-- Changes the state. -/
def modify (f : State → State) : Activity Unit := fun _ s next => next () (f s)

/-- Asks the system for something. -/
def ask {α : Type} (request : (α → Program) → Program) : Activity α :=
  fun _ s next => request fun a => next a s

/-- Works for a moment without asking for anything. -/
def pass : Activity Unit := ask Program.pass

/-- Is broken off. -/
def raise {α : Type} (raised : Raised) : Activity α := fun exits s _ => exits.raise raised s

/-- Does something that may be broken off, and tells whether it was. -/
def attempt {α : Type} (activity : Activity α) : Activity (Except Raised α) :=
  fun exits s next =>
    activity { exits with raise := fun raised s => next (.error raised) s } s
      fun a s => next (.ok a) s

/-- Ends the process at once. -/
def exit {α : Type} (code : Nat) : Activity α := fun _ _ _ => .exit code

/-- Becomes another program, unless that fails. -/
def execute (path : Path) (words : List Chars) (vars : Variables) : Activity Fault :=
  ask (Program.execute path (words.map Text.toOctets) vars)

/-- Sets how the last command came out. -/
def setStatus (status : Nat) : Activity Unit := modify fun s => { s with status }

/-- Writes characters, and goes on in any case. -/
def say (descriptor : Nat) (text : Chars) : Activity Unit :=
  ask (Program.emit descriptor (Text.toOctets text))

/-- Complains under the name of the shell, the line and the command that runs. -/
def warn (text : Chars) : Activity Unit := do
  let s ← state
  let command :=
    match s.command with
    | some command => command ++ Text.spell ": "
    | none => []
  say 2 (s.name ++ Text.spell s!": {s.line}: " ++ command ++ text ++ ['\n'])

/-- Complains, and is broken off with a status. -/
def failWith {α : Type} (raised : Raised) (status : Nat) (text : Chars) : Activity α := do
  setStatus status
  warn text
  raise raised

/-- Complains and is broken off. -/
def fail {α : Type} (text : Chars) : Activity α := failWith .fault 2 text

/-- The same with a string. -/
def failText {α : Type} (text : String) : Activity α := fail (Text.spell text)

/-- The greatest number that a shell counts with. -/
def greatestCount : Int := 2147483647

/-- Fails because of something that is no number. -/
def badNumber {α : Type} (text : Chars) : Activity α := fail (Text.spell "Illegal number: " ++ text)

/-- The number that an argument is, if it is one that a shell counts with. -/
def number (text : Chars) : Activity Nat :=
  match Number.wholeText? text with
  | some n => if 0 ≤ n ∧ n ≤ greatestCount then pure n.toNat else badNumber text
  | none => badNumber text

/-- Changes a variable, unless it keeps its value. The value given is the new one, if it gets one;
where one has got in the arguments must be a number. -/
def changeVariable (name : Chars) (value : Option Chars) (change : State → State) :
    Activity Unit := do
  let s ← state
  if (s.known? name).any (·.isReadonly) then fail (name ++ Text.spell ": is read only")
  if name = "OPTIND".toList then
    if let some value := value then let _ ← number value
  modify change

/-- Sets a variable. -/
def assign (name value : Chars) : Activity Unit :=
  changeVariable name (some value) fun s => s.set name value

/-- Fails if a text is no name. -/
def checkName (text : Chars) : Activity Unit := do
  let shown := text.takeWhile (· ≠ '=')
  if !isName shown then fail (shown ++ Text.spell ": bad variable name")

/-- Sets a variable whose name may be none. -/
def assignChecked (name value : Chars) : Activity Unit := do
  checkName name
  assign name value

/-- Starts a copy of the shell that does something else and then ends as its last command came
out. -/
def fork (activity : Activity Unit) : Activity Nat := fun exits s next =>
  let child := activity { exits with raise := exits.top } s.copied fun _ s => exits.top .done s
  .fork child fun id => next id s

/-- The status that an ending shows. -/
def statusOf : Ending → Nat
  | .exited code => code
  | .killed signal => 128 + signal

/-- Tells how a process ended, if a signal ended it that is worth a word. -/
def tellEnding : Ending → Activity Unit
  | .killed signal =>
    if signal = 2 ∨ signal = 13 then pure ()
    else say 2 (Text.spell (Machine.Signal.text signal) ++ ['\n'])
  | .exited _ => pure ()

/-- Waits for a process that was started for a command: the status it ended with. -/
def waitFor (child : Nat) : Activity Nat := do
  match ← ask (Program.wait child false) with
  | .ended how => do
    tellEnding how
    return statusOf how
  | _ => return 127

/-- Waits for processes one after the other: the status that the last ended with. -/
def waitForAll : List Nat → Nat → Activity Nat
  | [], status => pure status
  | child :: rest, _ => do waitForAll rest (← waitFor child)

/-- Sets what the process does about a signal. One that was ignored from the beginning stays
ignored. -/
def respondTo (signal : Nat) (response : Response) : Activity Unit := do
  if !(← state).ignored.contains signal then ask (Program.respond signal response)

end Activity

end Dialogue.Shell
