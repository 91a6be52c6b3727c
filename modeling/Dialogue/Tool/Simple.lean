import Dialogue.Duration
import Dialogue.Tool.Beginning
import Dialogue.Tool.Condition
import Dialogue.Tool.Copy
import Dialogue.Tool.Count
import Dialogue.Tool.Environment
import Dialogue.Tool.Print

/-!
Small programs: `cat`, `echo`, `printf`, `seq`, `head`, `sleep`, `pwd`, `env`, `test`, `true` and
`false`. Each is given the name it was started by and its arguments as characters.
-/

namespace Dialogue.Tool

/-- The length of time that an argument of `sleep` gives: seconds, or another unit by the letter
at its end. -/
def sleepTime? (argument : Chars) : Option Nat :=
  let (digits, unit) :=
    match argument.getLast? with
    | some 's' => (argument.dropLast, 1)
    | some 'm' => (argument.dropLast, 60)
    | some 'h' => (argument.dropLast, 3600)
    | some 'd' => (argument.dropLast, 86400)
    | _ => (argument, 1)
  match Number.Binary64.ofText? digits with
  | some seconds => (Duration.ofSeconds? seconds).map fun d => d.nanoseconds * unit
  | none => none

/-- Does nothing for a time. -/
def sleep (name : Chars) (arguments : List Chars) : Program :=
  let wrong := arguments.filter fun argument => (sleepTime? argument).isNone
  let complaints := wrong.map fun argument =>
    Text.spell "invalid time interval " ++ quoted argument
  if arguments.isEmpty then askForHelp name (Text.spell "missing operand")
  else
    match complaints.reverse with
    | [] => .sleep ((arguments.filterMap sleepTime?).foldl (· + ·) 0) fun _ => .exit 0
    | last :: before =>
      let lines := before.reverse.flatMap fun text => name ++ Text.spell ": " ++ text ++ ['\n']
      say 2 lines fun _ => askForHelp name last

/-- Answers a condition by its exit code. -/
def test (name : Chars) (arguments : List Chars) : Program :=
  let refuse (text : Chars) : Program := complain name text fun _ => .exit 2
  match condition true arguments with
  | .error (.badNumber argument) => refuse (Text.spell "invalid integer " ++ quoted argument)
  | .error (.unexpected argument) => refuse (Text.spell "extra argument " ++ quoted argument)
  | .error (.noArgument operator) =>
    refuse (Text.spell "missing argument after " ++ quoted operator)
  | .error .unclosed => refuse (Text.spell "')' expected")
  | .ok c => decideCondition c fun b => .exit (if b then 0 else 1)

/-- The same between brackets. -/
def bracket (name : Chars) (arguments : List Chars) : Program :=
  if arguments.getLast? = some [']'] then test name arguments.dropLast
  else complain name (Text.spell "missing ']'") fun _ => .exit 2

/-- Where one is. -/
def pwd (name : Chars) : Program :=
  .currentDirectory fun path => print name (Text.ofOctets path ++ ['\n']) fun _ => .exit 0

/-- The small programs, by name. -/
def simplePrograms : List (String × (Chars → List Chars → Variables → Program)) :=
  [("cat", fun name arguments _ => cat name arguments),
    ("echo", fun name arguments _ => echo name arguments),
    ("printf", fun name arguments _ => printf name arguments),
    ("seq", fun name arguments _ => seq name arguments),
    ("head", fun name arguments _ => head name arguments),
    ("sleep", fun name arguments _ => sleep name arguments),
    ("pwd", fun name _ _ => pwd name),
    ("env", fun name arguments vars => env name vars arguments),
    ("true", fun _ _ _ => .exit 0), ("false", fun _ _ _ => .exit 1),
    ("test", fun name arguments _ => test name arguments),
    ("[", fun name arguments _ => bracket name arguments)]

end Dialogue.Tool
