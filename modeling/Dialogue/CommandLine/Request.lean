import Dialogue.CommandLine.Option
import Dialogue.Settings

/-!
Reading the command line. Arguments are read from the left, and the first that is wrong, or that
asks for help or for the version, ends the reading. What is missing, and what does not go together,
is found at the end.
-/

namespace Dialogue.CommandLine

open Number (Binary64)

/-- What is wrong with a command line. -/
inductive Complaint
  | noActivity
  | unknownActivity (name : String)
  | unexpected (argument : String)
  | noValue (option : String)
  | valueGiven (option : String)
  | badValue (option value : String)
  | repeated (option : String)
  | missing (what : String)
  | conflict (first second : String)
deriving Repr, DecidableEq

/-- The text of a complaint. -/
def Complaint.message : Complaint → String
  | .noActivity => "'lunit' requires a subcommand but one was not provided"
  | .unknownActivity name => s!"unrecognized subcommand '{name}'"
  | .unexpected argument => s!"unexpected argument '{argument}' found"
  | .noValue option => s!"a value is required for '--{option}' but none was supplied"
  | .valueGiven option => s!"unexpected value for '--{option}' found; no more were expected"
  | .badValue option value => s!"invalid value '{value}' for '{option}'"
  | .repeated option => s!"the argument '--{option}' cannot be used multiple times"
  | .missing what => s!"the following required arguments were not provided: {what}"
  | .conflict first second =>
    s!"the argument '--{first}' cannot be used with '--{second}'"

/-- Why the reading of a command line ends without a request. -/
inductive Stop
  /-- A text was asked for. -/
  | shows (text : String)
  /-- Something is wrong. -/
  | refused (complaint : Complaint)
deriving Repr, DecidableEq

/-- What arguments have given so far. -/
structure Given where
  words : List String := []
  switches : List Switch := []
  values : List (Valued × String) := []
deriving Repr, DecidableEq

namespace Given

/-- Whether an option with a value was given. -/
def has (given : Given) (option : Valued) : Bool :=
  given.values.any (·.1 == option)

/-- The first value given for an option. -/
def value? (given : Given) (option : Valued) : Option String :=
  given.values.lookup option

/-- All values given for an option. -/
def valuesOf (given : Given) (option : Valued) : List String :=
  (given.values.filter (·.1 == option)).map (·.2)

/-- Adds a word. There is room for an entry and a scenario, whose path is not empty. -/
def addWord (given : Given) (text : String) : Except Stop Given :=
  match given.words with
  | [] => .ok { given with words := [text] }
  | [entry] =>
    if text = "" then .error (.refused (.badValue "<TEST>" text))
    else .ok { given with words := [entry, text] }
  | _ => .error (.refused (.unexpected text))

/-- Adds a switch. Help and the version are shown at once. -/
def addSwitch (level : Level) (given : Given) (switch : Switch) : Except Stop Given :=
  match switch, level with
  | .help, .general => .error (.shows generalHelp)
  | .help, .test => .error (.shows testHelp)
  | .version, _ => .error (.shows versionText)
  | switch, _ =>
    if given.switches.contains switch then .error (.refused (.repeated switch.name))
    else .ok { given with switches := given.switches ++ [switch] }

/-- Whether an option takes a value: a directory is not empty, and a time is a number. -/
def accepts : Valued → String → Bool
  | .target, text => text != ""
  | .timeout, text => (Binary64.ofText? text.toList).isSome
  | _, _ => true

/-- Adds an option with its value. -/
def addValue (given : Given) (option : Valued) (text : String) : Except Stop Given :=
  if !option.repeats && given.has option then .error (.refused (.repeated option.name))
  else if accepts option text then .ok { given with values := given.values ++ [(option, text)] }
  else .error (.refused (.badValue ("--" ++ option.name) text))

/-- Adds switches by their letters. -/
def addLetters (level : Level) (given : Given) : List Char → Except Stop Given
  | [] => .ok given
  | letter :: rest =>
    match (Switch.allowed level).find? (·.letter? == some letter) with
    | some switch =>
      match given.addSwitch level switch with
      | .ok given => given.addLetters level rest
      | .error stop => .error stop
    | none => .error (.refused (.unexpected (String.ofList ['-', letter])))

/-- Adds a switch by its name. -/
def addNamedSwitch (level : Level) (given : Given) (name : String) (value : Option String) :
    Except Stop Given :=
  match (Switch.allowed level).find? (·.name == name), value with
  | some switch, none => given.addSwitch level switch
  | some _, some _ => .error (.refused (.valueGiven name))
  | none, _ => .error (.refused (.unexpected ("--" ++ name)))

/-- Adds words. -/
def addWords (given : Given) : List String → Except Stop Given
  | [] => .ok given
  | text :: rest =>
    match given.addWord text with
    | .ok given => given.addWords rest
    | .error stop => .error stop

/-- Whether an argument can be the value of the option before it. -/
def isValueFor (option : Valued) (argument : String) : Bool :=
  option.takesHyphens || Argument.of argument == .word

/-- Adds the arguments after the name of the activity. -/
def addAll (given : Given) : List String → Except Stop Given
  | [] => .ok given
  | text :: rest =>
    match Argument.of text with
    | .word =>
      match given.addWord text with
      | .ok given => given.addAll rest
      | .error stop => .error stop
    | .onlyWords => given.addWords rest
    | .letters letters =>
      match given.addLetters .test letters with
      | .ok given => given.addAll rest
      | .error stop => .error stop
    | .named name value =>
      match (Valued.allowed .test).find? (·.name == name), value, rest with
      -- Whatever is no option with a value must be a switch.
      | none, value, rest =>
        match given.addNamedSwitch .test name value with
        | .ok given => given.addAll rest
        | .error stop => .error stop
      | some option, some value, rest =>
        match given.addValue option value with
        | .ok given => given.addAll rest
        | .error stop => .error stop
      | some option, none, [] => .error (.refused (.noValue option.name))
      | some option, none, value :: rest =>
        if isValueFor option value then
          match given.addValue option value with
          | .ok given => given.addAll rest
          | .error stop => .error stop
        else .error (.refused (.noValue option.name))
termination_by arguments => arguments.length

end Given

/-- A run that was asked for. -/
structure Request where
  entry : String
  script : Path
  targetDir : Path
  extension : String
  /-- The launcher; without one the artifact runs by itself. -/
  launcher : Option String
  launcherArgs : List String
  /-- How many seconds a read may take. -/
  timeout : Option Binary64
  verbose : Bool
deriving Repr, DecidableEq

/-- The request that arguments give, if nothing is missing and everything goes together. -/
def Given.request (given : Given) (verbose : Bool) : Except Stop Request :=
  let defaults : Settings := {}
  match given.words with
  -- What is missing is found before what does not go together.
  | [entry, script] =>
    let native := given.switches.contains .native
    if native && given.has .launcher then
      .error (.refused (.conflict Valued.launcher.name Switch.native.name))
    else
      .ok {
        entry
        script := Path.ofText script
        targetDir := ((given.value? .target).map Path.ofText).getD defaults.targetDir
        extension := (given.value? .extension).getD defaults.extension
        launcher := if native then none else given.value? .launcher <|> defaults.launcher
        launcherArgs := given.valuesOf .launcherArg
        timeout := (given.value? .timeout).bind fun text => Binary64.ofText? text.toList
        verbose := verbose || given.switches.contains .verbose }
  | [_] => .error (.refused (.missing "<TEST>"))
  | _ => .error (.refused (.missing "<ENTRY> <TEST>"))

/-- The help on the activities named, each within the one before it. -/
def helpOn : List String → Stop
  | [] => .shows generalHelp
  | ["test"] => .shows testHelp
  | ["help"] => .shows helpHelp
  | name :: others =>
    if name = "test" ∨ name = "help" then .refused (.unknownActivity (others.headD ""))
    else .refused (.unknownActivity name)

/-- Reads a command line from the arguments before the name of the activity on. -/
def readGeneral (given : Given) : List String → Except Stop Request
  | [] => .error (.refused .noActivity)
  | text :: rest =>
    match Argument.of text with
    | .word =>
      if text = "test" then
        match Given.addAll {} rest with
        | .ok found => found.request (given.switches.contains .verbose)
        | .error stop => .error stop
      else if text = "help" then .error (helpOn rest)
      else .error (.refused (.unknownActivity text))
    | .onlyWords =>
      .error (.refused (match rest with
        | [] => .noActivity
        | text :: _ => .unexpected text))
    | .letters letters =>
      match given.addLetters .general letters with
      | .ok given => readGeneral given rest
      | .error stop => .error stop
    | .named name value =>
      match given.addNamedSwitch .general name value with
      | .ok given => readGeneral given rest
      | .error stop => .error stop

/-- Reads a command line. -/
def Request.ofArguments (arguments : List String) : Except Stop Request :=
  readGeneral {} arguments

end Dialogue.CommandLine
