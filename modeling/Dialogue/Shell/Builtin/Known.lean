import Dialogue.Shell.Builtin.Letters

/-!
What names stand for: keywords, aliases, functions, the commands that the shell runs itself, and
programs in the directories in which they are looked up.
-/

namespace Dialogue.Shell

open Activity

/-- The commands that a shell runs itself and that are not special. -/
def plainCommands : List String :=
  ["[", "alias", "bg", "cd", "chdir", "command", "echo", "false", "fg", "getopts", "hash", "jobs",
    "kill", "printf", "pwd", "read", "test", "true", "type", "ulimit", "umask", "unalias", "wait"]

/-- Whether a shell runs a command itself. -/
def isBuiltin (name : Chars) : Bool :=
  specialCommands.any (·.toList == name) || plainCommands.any (·.toList == name)

/-- Whether a command is special. -/
def isSpecialCommand (name : Chars) : Bool := specialCommands.any (·.toList == name)

/-- Whether the arguments of a command may be assignments, whose values are not split. -/
def takesAssignments (name : Chars) : Bool :=
  ["alias", "export", "local", "readonly"].any (·.toList == name)

/-- Where a program was found, or why none was. -/
inductive Lookup
  | found (path : Path)
  | missing (fault : Fault)

/-- Looks for a program in directories. -/
def lookIn (name : Chars) : Fault → List Path → Activity Lookup
  | fault, [] => pure (.missing fault)
  | fault, directory :: rest => do
    let path := Path.join directory (Text.toOctets name)
    match ← ask (Program.inspect path true) with
    | .error other =>
      let passed : Bool := other = .noEntry ∨ other = .notDirectory
      lookIn name (if passed then fault else other) rest
    | .ok kind =>
      if kind.sort = .file then return .found path else lookIn name .noAccess rest

/-- Looks for a program in the directories of the shell, and notes where it was found. -/
def lookUp (name : Chars) : Activity Lookup := do
  let s ← state
  match s.found.lookup name with
  | some path => return .found path
  | none => do
    let found ← lookIn name .noEntry s.searchPath
    match found with
    | .found path => modify fun s => { s with found := (name, path) :: s.found }
    | .missing _ => pure ()
    return found

/-- What is said of a program that could not be started. -/
def startFaultText (fault : Fault) : String :=
  if fault = .noEntry ∨ fault = .notDirectory then "not found" else fault.systemText

/-- The line that shows an alias. -/
def aliasLine (name text : Chars) : Chars := name ++ '=' :: singleQuoted text ++ ['\n']

/-- The directories in which programs are looked up if nothing is to be relied on. -/
def trustedPath : List Path :=
  ["/usr/sbin", "/usr/bin", "/sbin", "/bin"].map Path.ofText

/-- Tells what a name stands for, in a sentence or in few words. -/
def describe (verbose : Bool) (directories : Option (List Path)) (name : Chars) :
    Activity Nat := do
  let s ← state
  let sentence (text : Chars) : Activity Nat :=
    printOut (name ++ (if verbose then text else []) ++ ['\n'])
  let at' (path : Chars) (tracked : Bool) : Activity Nat :=
    let is := if tracked then " is a tracked alias for " else " is "
    printOut ((if verbose then name ++ Text.spell is else []) ++ path ++ ['\n'])
  let missing : Activity Nat := do
    if verbose then
      let _ ← printOut (name ++ Text.spell ": not found\n")
    return 127
  if (Keyword.ofText? name).isSome then sentence (Text.spell " is a shell keyword")
  else
    match s.aliases.lookup name with
    | some text =>
      if verbose then sentence (Text.spell " is an alias for " ++ text)
      else printOut (Text.spell "alias " ++ aliasLine name text)
    | none =>
      if (s.functions.lookup name).isSome then sentence (Text.spell " is a shell function")
      else if isSpecialCommand name then sentence (Text.spell " is a special shell builtin")
      else if isBuiltin name then sentence (Text.spell " is a shell builtin")
      else if name.contains '/' then
        match ← ask (Program.inspect (Text.toOctets name) true) with
        | .ok _ => at' name false
        | .error _ => missing
      else
        match directories with
        | some directories => do
          match ← lookIn name .noEntry directories with
          | .found path => at' (Text.ofOctets path) false
          | .missing _ => missing
        | none => do
          let tracked := (s.found.lookup name).isSome
          match ← lookUp name with
          | .found path => at' (Text.ofOctets path) tracked
          | .missing _ => missing

/-- Tells what names stand for. -/
def runType (arguments : List Chars) : Activity Nat := do
  let statuses ← arguments.mapM (describe true none)
  return if statuses.all (· = 0) then 0 else 127

/-- Tells what a command stands for, if that is asked. -/
def runCommand (arguments : List Chars) : Activity Nat := do
  let (letters, arguments) ← readLetters "pvV" "" arguments
  let directories := if isGiven 'p' letters then some trustedPath else none
  match arguments with
  | name :: _ =>
    if isGiven 'V' letters then describe true directories name
    else if isGiven 'v' letters then describe false directories name
    else return 0
  | [] => return 0

/-- Sets aliases, or shows them. -/
def runAlias (arguments : List Chars) : Activity Nat := do
  if arguments = [] then
    let aliases := State.listed (← state).aliases
    printOut (aliases.flatMap fun (name, text) => aliasLine name text)
  else
    let statuses ← arguments.mapM fun argument => do
      -- An equals sign at the start does not count.
      let name := argument.take 1 ++ (argument.drop 1).takeWhile (· ≠ '=')
      match (argument.drop 1).dropWhile (· ≠ '=') with
      | _ :: text => do
        modify fun s =>
          let known := (s.aliases.lookup name).isSome
          { s with
            aliases :=
              if known then
                s.aliases.map fun (other, old) =>
                  if other = name then (name, text) else (other, old)
              else s.aliases ++ [(name, text)] }
        return 0
      | [] =>
        match (← state).aliases.lookup argument with
        | some text => printOut (aliasLine argument text)
        | none => do
          say 2 (Text.spell "alias: " ++ argument ++ Text.spell " not found\n")
          return 1
    return if statuses.all (· = 0) then 0 else 1

/-- Forgets aliases. -/
def runUnalias (arguments : List Chars) : Activity Nat := do
  let (letters, names) ← readLetters "a" "" arguments
  if isGiven 'a' letters then
    modify fun s => { s with aliases := [] }
    return 0
  else
    let known ← names.mapM fun name => do
      let s ← state
      if (s.aliases.lookup name).isSome then
        modify fun s => { s with aliases := s.aliases.filter (·.1 != name) }
        return true
      else
        say 2 (Text.spell "unalias: " ++ name ++ Text.spell " not found\n")
        return false
    return if known.all id then 0 else 1

/-- Looks programs up, or forgets where they were found, or shows that. -/
def runHash (arguments : List Chars) : Activity Nat := do
  let (letters, names) ← readLetters "r" "" arguments
  if isGiven 'r' letters then
    modify fun s => { s with found := [] }
    return 0
  else if names = [] then
    let found := State.listed (← state).found
    printOut (found.flatMap fun (_, path) => Text.ofOctets path ++ ['\n'])
  else
    let statuses ← names.mapM fun name => do
      let s ← state
      modify fun s => { s with found := s.found.filter (·.1 != name) }
      if (s.functions.lookup name).isSome || isBuiltin name || name.contains '/' then return 0
      else
        match ← lookUp name with
        | .found _ => return 0
        | .missing fault => do
          warn (name ++ Text.spell s!": {startFaultText fault}")
          return 1
    return if statuses.all (· = 0) then 0 else 1

end Dialogue.Shell
