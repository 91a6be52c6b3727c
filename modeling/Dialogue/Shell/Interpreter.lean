import Dialogue.Shell.Run

/-!
The shell as a program. Its script is an argument, a file, or its input; a script that comes from
the input is run command by command, as far as it is there.
-/

namespace Dialogue.Shell

open Activity

/-- How deep the running of commands may go, and how often loops may go round. -/
def depth : Nat := 100000000

/-- Ends a shell: what is set to be run at the end is run first, and may set another status. The
first argument bounds how often that starts shells which end in turn. -/
def finish : Nat → Raised → State → Program
  | 0, _, s => .exit s.status
  | bound + 1, raised, s =>
    -- Only whoever was told to end comes out with the status that it was told.
    let statusOf (raised : Raised) (s : State) : Nat :=
      if raised = .told then s.exitStatus.getD s.status else s.status
    let status := statusOf raised s
    match s.traps.lookup 0 with
    | none => .exit status
    | some action =>
      let s :=
        { s.setTrap 0 none with
          status, exitStatus := some status, loops := 0, command := none, isTracing := false }
      let exits : Exits :=
        { raise := fun raised s => .exit (statusOf raised s), top := finish bound }
      runText depth {} action exits s fun _ _ => .exit status

/-- A shell that runs an activity and then ends. -/
def begin (s : State) (activity : Activity Unit) : Program :=
  activity { raise := finish depth, top := finish depth } s fun _ s => finish depth .done s

/-- Variables that a shell knows from the beginning, even if they have no value. -/
def knownVariables : List (String × Option String) :=
  [("IFS", some " \t\n"), ("MAIL", none), ("MAILPATH", none),
    ("PATH", some "/usr/local/sbin:/usr/local/bin:/usr/sbin:/usr/bin:/sbin:/bin"),
    ("PS1", some "# "), ("PS2", some "> "), ("PS4", some "+ "), ("OPTIND", some "1"),
    ("TERM", none), ("HISTSIZE", none)]

/-- The variables of a shell that is started with some. -/
def startVariables (given : Variables) : List (Chars × Variable) :=
  let known := knownVariables.map fun (name, value) =>
    (name.toList, ({ value := value.map String.toList, stays := true } : Variable))
  -- A later entry counts and not an earlier one.
  let all := given.foldl
    (fun (vars : List (Chars × Variable)) (name, value) =>
      let name := Text.ofOctets name
      if isName name then
        let v := (vars.lookup name).getD {}
        State.putEntry name { v with value := some (Text.ofOctets value), isExported := true } vars
      else vars)
    known
  -- How words are split, and how far arguments were looked through, comes from nobody else.
  all.map fun (name, v) =>
    if name = "IFS".toList then (name, { v with value := some [' ', '\t', '\n'] })
    else if name = "OPTIND".toList then (name, { v with value := some ['1'] })
    else (name, v)

/-- Notes where the shell is when it starts. The path that it was given counts if it leads there. -/
def noteStart : Activity Unit := do
  let given := (← state).value? "PWD"
  let here ← ask (Program.inspect [Path.dot] true)
  let isRight ←
    match given, here with
    | some path, .ok here => do
      if path.head? != some '/' then pure false
      else
        match ← ask (Program.inspect (Text.toOctets path) true) with
        | .ok there => pure (there.isFolder && there.place == here.place)
        | .error _ => pure false
    | _, _ => pure false
  noteDirectory (if isRight then given else none) false

/-- Runs a script from the input. If someone sits there, a fault is no reason to end, but what has
been read is forgotten. The first argument bounds the faults. -/
def runInput : Nat → Nat → Activity Unit
  | 0, _ => pure ()
  | bound + 1, line => do
    let start : Source := { unread := [], isWhole := false, line }
    match ← attempt (runSource depth {} .input false start) with
    | .ok _ => pure ()
    | .error raised => do
      let s ← state
      if raised = .fault && s.has .interactive then
        unwindRedirections s.saved.length 0
        unwindLocals 0
        modify fun s => { s with loops := 0, command := none }
        runInput bound (s.readingLine)
      else raise raised

/-- Does what the arguments of a shell ask for. -/
def runArguments (arguments : List Chars) : Activity Unit := do
  let given ← setOptions true (arguments.length + 1) { rest := arguments }
  if given.rest.isEmpty then
    if given.hasScript then failText "-c requires an argument"
    modify fun s => s.withOption .stdin true
  let fromInput := (← state).has .stdin
  if (← state).has .interactive || (← state).has .monitor then warnOfTerminal
  let readInput : Activity Unit := runInput depth 1
  let setName (words : List Chars) : Activity Unit :=
    match words with
    | [] => pure ()
    | name :: rest => modify fun s => { s.withArguments rest with name }
  match given.hasScript, given.rest with
  | true, script :: rest => do
    setName rest
    let _ ← runText depth { exits := !fromInput } script
    if fromInput then readInput
  | _, rest => do
    if fromInput then
      modify fun s => s.withArguments rest
      readInput
    else
      let text ← readScript (Text.toOctets (rest.headD []))
      setName rest
      let _ ← runSource depth {} .file false { unread := text }

/-- The shell as a program. -/
def shell (arguments : List Octets) (vars : Variables) : Program :=
  .identity fun (id, parent) =>
    .ignored fun ignored =>
      let words := arguments.map Text.ofOctets
      let vars := State.putEntry "PPID".toList { value := some (Text.decimal parent) }
        (startVariables vars)
      let start : State := { name := words.headD (Text.spell "sh"), vars, id, ignored }
      begin start do
        noteStart
        runArguments (words.drop 1)

end Dialogue.Shell
