import Dialogue.Machine.SearchPath
import Dialogue.Number.Whole
import Dialogue.Shell.Options
import Dialogue.Shell.Source

/-!
The state of a shell: its parameters and variables, what it knows by name, its options, and the
processes that it has started.
-/

namespace Dialogue.Shell

/-- A variable. -/
structure Variable where
  /-- Its value, if it has one. -/
  value : Option Chars := none
  isExported : Bool := false
  isReadonly : Bool := false
  /-- It stays known when its value is taken away. -/
  stays : Bool := false
deriving Repr, DecidableEq

/-- What a name was before it became local to a function. -/
inductive Before
  | named (name : Chars) (before : Option Variable)
  | options (options : List ShellOption)
deriving Repr, DecidableEq

/-- A job: processes of which each reads what the one before it writes. -/
structure Job where
  number : Nat
  /-- The processes, with how they ended. -/
  processes : List (Nat × Option Ending)
  /-- It has been waited for. -/
  isWaited : Bool := false

/-- Whether a job runs. -/
def Job.isRunning (job : Job) : Bool := job.processes.any (·.2.isNone)

/-- The positional parameters, and how far they have been looked through for options. -/
structure Arguments where
  list : List Chars := []
  optionIndex : Int := 1
  /-- How far one has got in a word of several options. -/
  optionOffset : Option Nat := none

/-- The state of a shell. -/
structure State where
  /-- The name that it complains under. -/
  name : Chars
  arguments : Arguments := {}
  vars : List (Chars × Variable) := []
  /-- What was before in the functions that run, the innermost first. -/
  locals : List (List Before) := []
  functions : List (Chars × Command) := []
  aliases : List (Chars × Chars) := []
  /-- Where programs were found. -/
  found : List (Chars × Path) := []
  /-- The texts in the scripts. -/
  texts : List (Nat × HereText) := []
  nextText : Nat := 0
  options : List ShellOption := []
  /-- How the last command came out. -/
  status : Nat := 0
  /-- How the last command came out whose output was put into a word. -/
  substituted : Nat := 0
  /-- The status that a shell ends with which is told to end. -/
  exitStatus : Option Nat := none
  line : Nat := 0
  /-- The line that the reading of the script has come to. -/
  readingLine : Nat := 1
  /-- The builtin command that runs, or the script that it reads. -/
  command : Option Chars := none
  /-- The number of the process that the shell started as. -/
  id : Nat := 0
  /-- The process left in the background last. -/
  lastBackground : Option Nat := none
  /-- The jobs in the background, the latest first. -/
  jobs : List Job := []
  /-- What is to be run for a signal, and at the end for the signal zero. -/
  traps : List (Nat × Chars) := []
  /-- The signals that were ignored when the shell started. -/
  ignored : List Nat := []
  /-- What descriptors stood for before they were redirected, one list for each command that runs
  with redirections, the innermost first. -/
  saved : List (List (Nat × Option Nat)) := []
  /-- How many loops are being run, one in the other. -/
  loops : Nat := 0
  /-- Where the shell is, as it got there. -/
  directory : Option Chars := none
  /-- The same without links, if it is known. -/
  physical : Option Chars := none
  /-- How much may be used of what, where that was set. -/
  limits : List (Char × Option Nat) := []
  /-- What is shown before a command is being worked out. -/
  isTracing : Bool := false
  /-- It is a copy of a shell. -/
  isCopy : Bool := false

namespace State

/-- Whether an option is on. -/
def has (s : State) (option : ShellOption) : Bool := s.options.contains option

/-- A state in which an option is on or off. -/
def withOption (s : State) (option : ShellOption) (on : Bool) : State :=
  let others := s.options.filter (· != option)
  -- The two ways of editing lines exclude each other.
  let others :=
    if on && option == .vi then others.filter (· != .emacs)
    else if on && option == .emacs then others.filter (· != .vi)
    else others
  { s with options := if on then option :: others else others }

/-- The letters of the options that are on. -/
def optionLetters (s : State) : Chars :=
  (ShellOption.all.reverse.filter s.has).filterMap ShellOption.letter?

/-- A variable. -/
def known? (s : State) (name : Chars) : Option Variable := s.vars.lookup name

/-- The value of a variable. -/
def get? (s : State) (name : Chars) : Option Chars := (s.known? name).bind (·.value)

/-- The value of a variable whose name is a string. -/
def value? (s : State) (name : String) : Option Chars := s.get? name.toList

/-- A list with another entry for a name, which stays where it was. -/
def putEntry (name : Chars) (v : Variable) : List (Chars × Variable) → List (Chars × Variable)
  | [] => [(name, v)]
  | (other, w) :: rest =>
    if other = name then (name, v) :: rest else (other, w) :: putEntry name v rest

/-- What is known of a name after an entry was put there. -/
theorem lookup_putEntry (name : Chars) (v : Variable) (entries : List (Chars × Variable))
    : (putEntry name v entries).lookup name = some v := by
  induction entries with
  | nil => simp [putEntry]
  | cons entry rest ih =>
      obtain ⟨other, w⟩ := entry
      by_cases h : other = name
      · simp [putEntry, h]
      · have : (name == other) = false := by simpa using fun e => h e.symm
        simp [putEntry, h, List.lookup_cons, this, ih]

/-- A state in which a variable is something else, or unknown. -/
def putVariable (s : State) (name : Chars) : Option Variable → State
  | some v => { s with vars := putEntry name v s.vars }
  | none => { s with vars := s.vars.filter (·.1 != name) }

/-- What follows from a new value of some variables: looking through the arguments begins anew
there, and programs have to be looked up again. -/
def noteValue (s : State) (name : Chars) (value : Option Chars) : State :=
  if name = "OPTIND".toList then
    let index := (value.bind Number.wholeText?).getD 1
    let index := if index = 0 then 1 else index
    { s with arguments := { s.arguments with optionIndex := index, optionOffset := none } }
  else if name = "PATH".toList then { s with found := [] }
  else s

/-- A state in which a variable has a value. -/
def set (s : State) (name value : Chars) : State :=
  let v := (s.known? name).getD {}
  let isExported := v.isExported || s.has .allexport
  (s.putVariable name (some { v with value := some value, isExported })).noteValue name value

/-- A state in which a variable has no value. It stays known if it has to. -/
def unset (s : State) (name : Chars) : State :=
  let v := (s.known? name).getD {}
  let s := s.noteValue name none
  if v.stays then s.putVariable name (some { v with value := none, isExported := false })
  else s.putVariable name none

/-- The bucket of a name: the order in which variables and aliases are listed. -/
def bucket (name : Chars) : Nat :=
  (name.foldl (fun n c => n + c.toNat) ((name.headD '\x00').toNat * 16)) % 39

/-- Entries in the order in which they are listed. -/
def listed {α : Type} (entries : List (Chars × α)) : List (Chars × α) :=
  entries.mergeSort fun a b => bucket a.1 ≤ bucket b.1

/-- The variables that programs are started with. -/
def environment (s : State) : Variables :=
  (listed s.vars).filterMap fun (name, v) =>
    match v.isExported, v.value with
    | true, some value => some (Text.toOctets name, Text.toOctets value)
    | _, _ => none

/-- The characters at which words are split. -/
def separators (s : State) : Chars := (s.value? "IFS").getD [' ', '\t', '\n']

/-- The directories in which programs are looked up. -/
def searchPath (s : State) : List Path :=
  match s.value? "PATH" with
  | some list => Machine.directoriesOf (Text.toOctets list)
  | none => Machine.searchPath

/-- Whether something is to be run for a signal or at the end. -/
def hasTraps (s : State) : Bool := s.traps.any fun trap => !trap.2.isEmpty

/-- A state with something to be run for a signal, or nothing any more. -/
def setTrap (s : State) (signal : Nat) (action : Option Chars) : State :=
  let others := s.traps.filter (·.1 != signal)
  { s with traps := (action.map fun action => (signal, action)).toList ++ others }

/-- A state with other arguments, which have not been looked through. -/
def withArguments (s : State) (list : List Chars) : State := { s with arguments := { list } }

/-- The lowest number that no job has. A job that has ended and was waited for has lost its
number. -/
def freeJob (s : State) : Nat :=
  let taken := (s.jobs.filter fun job => job.isRunning || !job.isWaited).map (·.number)
  ((List.range (taken.length + 1)).map (· + 1)).find? (!taken.contains ·) |>.getD 1

/-- A state with a job in the background. -/
def addJob (s : State) (processes : List Nat) : State :=
  let number := s.freeJob
  let job : Job := { number, processes := processes.map (·, none) }
  { s with jobs := job :: s.jobs.filter (·.number != number) }

/-- A state in which it is known how a process ended. -/
def noteEnding (s : State) (process : Nat) (how : Ending) : State :=
  { s with
    jobs := s.jobs.map fun job =>
      { job with
        processes := job.processes.map fun (id, old) =>
          if id = process then (id, some how) else (id, old) } }

/-- The state of a copy of a shell. What is to be run for signals is not copied; only those that
do nothing still do nothing. -/
def copied (s : State) : State :=
  { s with
    jobs := []
    isCopy := true
    traps := s.traps.filter fun trap => trap.2.isEmpty }

end State

end Dialogue.Shell
