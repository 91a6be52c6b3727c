import Dialogue.Shell.Builtin.Directory
import Dialogue.Shell.Builtin.Known
import Dialogue.Shell.Builtin.Limit
import Dialogue.Shell.Builtin.Name
import Dialogue.Shell.Builtin.Print
import Dialogue.Shell.Builtin.Process
import Dialogue.Shell.Builtin.Read
import Dialogue.Shell.Reading
import Dialogue.Shell.Redirect

/-!
Running commands. A command comes out with a status, and may send the flow elsewhere: out of loops,
to their next round, or out of a function. Programs are run in copies of the shell, and so are the
commands of a pipeline, those in parentheses and those left in the background.
-/

namespace Dialogue.Shell

open Activity

/-- Where the flow goes after a command. -/
inductive Flow
  | onward
  | leaveLoops (count : Nat)
  | nextRound (count : Nat)
  /-- Out of a function or a script; the flag says that a status was given for it. -/
  | leaveFunction (hasStatus : Bool)
deriving Repr, DecidableEq

namespace Flow

/-- The flow after something else has been done that has a flow of its own. -/
def andThen : Flow → Flow → Flow
  | .onward, flow => flow
  | flow, _ => flow

/-- What is left of a flow after a loop that it passes. -/
def afterLoop : Flow → Flow
  | .leaveLoops (n + 2) => .leaveLoops (n + 1)
  | .nextRound (n + 2) => .nextRound (n + 1)
  | .leaveFunction hasStatus => .leaveFunction hasStatus
  | _ => .onward

/-- Whether a flow ends a loop. -/
def endsLoop : Flow → Bool
  | .onward => false
  | .nextRound n => 1 < n
  | _ => true

/-- What is left of a flow at the end of a function or a script that is read by another one. -/
def afterFunction : Flow → Flow
  | .leaveFunction _ => .onward
  | flow => flow

end Flow

/-- How a command is run. -/
structure Mode where
  /-- It is looked at how the command comes out, so that failing is no reason to end the shell. -/
  isTested : Bool := false
  /-- The process ends with the command. -/
  exits : Bool := false

/-- The mode of a part of a command that does not end it. -/
def Mode.inner (mode : Mode) : Mode := { mode with exits := false }

/-- Where the shell itself is. -/
def shellPath : Path := Path.ofText "/bin/sh"

/-- Becomes the first program that can be started; a file in no known format is run as a script. The
answer is why none could be. -/
def startFirst (words : List Chars) (refused : Fault) : List Path → Activity Fault
  | [] => pure refused
  | path :: rest => do
    let vars := (← state).environment
    match ← Activity.execute path words vars with
    | .system 8 =>
      Activity.execute shellPath (Text.ofOctets shellPath :: Text.ofOctets path :: words.drop 1)
        vars
    | fault =>
      let passed : Bool := fault = .noEntry ∨ fault = .notDirectory
      startFirst words (if passed then refused else fault) rest

/-- Whether a program that could not be started for a reason counts as one that is not there. -/
def isMissing (fault : Fault) : Bool :=
  fault == .noEntry || fault == .notDirectory || fault == .linkLoop || fault == .nameTooLong

/-- Becomes a program that is looked up in directories. If there is none that can be started, the
process ends. -/
def becomeProgram {α : Type} (words : List Chars) (directories : List Path) : Activity α := do
  let name := words.headD []
  let paths :=
    if name.contains '/' then [Text.toOctets name]
    else directories.map fun directory => Path.join directory (Text.toOctets name)
  let fault ← startFirst words .noEntry paths
  failWith .done (if isMissing fault then 127 else 126)
    (name ++ Text.spell s!": {startFaultText fault}")

/-- The words of a command, as far as they have been worked out. -/
structure WordsRead where
  done : List Chars := []
  rest : List Word

/-- Works out words until there is one of an index, if there is. -/
def WordsRead.reach (runner : Runner) (index : Nat) (done : List Chars) :
    List Word → Activity WordsRead
  | [] => pure { done, rest := [] }
  | word :: rest => do
    if index < done.length then return { done, rest := word :: rest }
    else WordsRead.reach runner index (done ++ (← expandWord runner word)) rest

/-- What a name stands for where a command is expected. -/
inductive Target
  | function (body : Command)
  | builtin
  | program

/-- What a name stands for. The flag says that functions do not count. -/
def targetOf (s : State) (noFunctions : Bool) (name : Chars) : Target :=
  if name.contains '/' then .program
  else
    match if noFunctions then none else s.functions.lookup name with
    | some body => .function body
    | none => if isBuiltin name then .builtin else .program

/-- What is to be run: the words, and where among them the command starts. -/
structure Resolved where
  words : WordsRead
  start : Nat := 0
  target : Target := .builtin
  /-- The first word stands for a special command. -/
  isSpecial : Bool := false
  /-- The words behind are assignments, where they look like it. -/
  takesAssignments : Bool := false
  /-- Only directories that can be relied on are searched. -/
  isTrusted : Bool := false

/-- Looks behind the word `command`: where the command starts that is meant, and whether only
directories that can be relied on are searched. There is none if the word has other letters behind
it. The first argument bounds the words. -/
def behindCommandWord (runner : Runner) :
    Nat → Nat → Bool → WordsRead → Activity (Option (Nat × Bool) × WordsRead)
  | 0, _, _, words => pure (none, words)
  | bound + 1, index, isTrusted, words => do
    let words ← WordsRead.reach runner index words.done words.rest
    match words.done[index]? with
    | none => return (none, words)
    | some ['-', '-'] => do
      let words ← WordsRead.reach runner (index + 1) words.done words.rest
      let isThere := index + 1 < words.done.length
      return (if isThere then some (index + 1, isTrusted) else none, words)
    | some ('-' :: letter :: letters) =>
      if (letter :: letters).all (· == 'p') then
        behindCommandWord runner bound (index + 1) true words
      else return (none, words)
    | some _ => return (some (index, isTrusted), words)

/-- Finds out what is to be run. The first argument bounds how often the word `command` stands
before it. -/
def resolve (runner : Runner) : Nat → Bool → Resolved → Activity Resolved
  | 0, _, found => pure found
  | bound + 1, isFirst, found => do
    let name := found.words.done.getD found.start []
    let target := targetOf (← state) (!isFirst) name
    let found := { found with target }
    match target with
    | .builtin => do
      let isSpecial := if isFirst then isSpecialCommand name else found.isSpecial
      let found := { found with isSpecial, takesAssignments := takesAssignments name }
      if name ≠ Text.spell "command" then return found
      else
        match ← behindCommandWord runner mostCharacters (found.start + 1) false found.words with
        | (none, words) => return { found with words }
        | (some (start, isTrusted), words) =>
          resolve runner bound false
            { found with words, start, isTrusted := found.isTrusted || isTrusted }
    | _ => return { found with takesAssignments := false }

/-- Works out the words of a command that have not been yet. -/
def finishWords (runner : Runner) (assigns : Bool) : List Word → Activity (List Chars)
  | [] => pure []
  | word :: rest => do
    let fields ←
      match if assigns then assignment? word else none with
      | some (name, value) => do pure [name ++ '=' :: (← expandValue runner value)]
      | none => expandWord runner word
    return fields ++ (← finishWords runner assigns rest)

/-- Makes the assignments before a command, and returns them as they are shown. They hold for the
command only, or they stay and may be exported. -/
def makeAssignments (runner : Runner) (isLocal exports : Bool) :
    List (Chars × Word) → Activity (List Chars)
  | [] => pure []
  | (name, word) :: rest => do
    let value ← expandValue runner word
    if isLocal then makeLocal true name (some value)
    else
      assign name value
      if exports then
        modify fun s =>
          let v := (s.known? name).getD {}
          s.putVariable name (some { v with isExported := true })
    return (name ++ '=' :: value) :: (← makeAssignments runner isLocal exports rest)

/-- What a variable says that is to be shown before something else. If it cannot be worked out it is
shown as it is. -/
def promptOf (runner : Runner) (name : String) : Activity Chars := do
  let s ← state
  let text := (s.value? name).getD []
  let expanded ← attempt do
    match readWholeText.run { unread := text, aliases := s.aliases, nextText := s.nextText } with
    | .ok (text, _) => expandHereText runner text
    | .error (.invalid line complaint) => do
      modify fun s => { s with line }
      failText ("Syntax error: " ++ complaint)
    | .error .unfinished => pure []
  match expanded with
  | .ok shown => return shown
  | .error .fault => do
    setStatus s.status
    return text
  | .error raised => raise raised

/-- Shows a command before it is run, if that is asked for. The flag says that the command has
redirections: it is shown where complaints went before. -/
def showCommand (runner : Runner) (isRedirected : Bool) (shown : List Chars) : Activity Unit := do
  let s ← state
  if s.has .xtrace && !s.isTracing then
    modify fun s => { s with isTracing := true }
    let start ← promptOf runner "PS4"
    modify fun s => { s with isTracing := false }
    let descriptor ← if isRedirected then formerErrors else pure 2
    say descriptor (start ++ (shown.intersperse [' ']).flatten ++ ['\n'])

/-- Whether words match the pattern of an arm. -/
def matchesAny (runner : Runner) (text : Chars) : List Word → Activity Bool
  | [] => pure false
  | pattern :: rest => do
    if Pattern.matches (← expandPattern runner pattern) text then return true
    else matchesAny runner text rest

/-- Counts a loop while it is run. -/
def inLoop (activity : Activity Flow) : Activity Flow := do
  modify fun s => { s with loops := s.loops + 1 }
  let flow ← activity
  modify fun s => { s with loops := s.loops - 1 }
  return flow

/-- Takes leave of the terminal, as a process in the background does: the first of a job reads
nothing. -/
def leaveTerminal (isFirst : Bool) : Activity Unit := do
  respondTo 2 .ignores
  respondTo 3 .ignores
  if isFirst then
    ask (Program.close 0)
    let _ ← ask (Program.openFile (Path.ofText "/dev/null") .read)

/-- Notes a job in the background. -/
def noteBackground (processes : List Nat) : Activity Unit :=
  modify fun s => { s.addJob processes with lastBackground := processes.getLast? }

/-- Looks up the program that a command in a pipeline will start, so that it is known from then
on. -/
def lookAhead (command : Command) : Activity Unit := do
  match command with
  | .simple _ _ (word :: _) _ =>
    match bareText? word with
    | some name =>
      if isName name then
        match targetOf (← state) false name with
        | .program => do
          let _ ← lookUp name
        | _ => pure ()
    | none => pure ()
  | _ => pure ()

/-- The file of a script that a name stands for: it is looked up like a program if there is no slash
in its name. -/
def scriptPath? (name : Chars) : List Path → Activity (Option Path)
  | [] => pure none
  | directory :: rest => do
    let path := Path.join directory (Text.toOctets name)
    match ← ask (Program.inspect path true) with
    | .ok kind => if kind.sort = .file then return some path else scriptPath? name rest
    | .error _ => scriptPath? name rest

/-- Reads a script in a file. -/
def readScript (path : Path) : Activity Chars := do
  match ← ask (Program.openFile path .read) with
  | .error fault =>
    fail (Text.spell "cannot open " ++ Text.ofOctets path
      ++ Text.spell s!": {openFaultText false fault}")
  | .ok descriptor => do
    let octets ← ask (Tool.readAll descriptor Tool.mostReads [])
    ask (Program.close descriptor)
    return Text.ofOctets (octets.toOption.getD [])

/-- How many octets of a script are read at once. -/
def scriptBlock : Nat := 8191

/-- Where a script comes from. -/
inductive Origin
  | text
  /-- Its lines may be shown as they are read. -/
  | file
  /-- It is asked for line by line if someone sits there. -/
  | input
deriving Repr, DecidableEq

/-- Shows lines of a script, if that is asked for. -/
def showLines (lines : Chars) : Activity Unit := do
  if (← state).has .verbose then say 2 lines

/-- So many lines at the start of a text. -/
def linesOf : Nat → Chars → Chars
  | 0, _ => []
  | _, [] => []
  | count + 1, c :: rest => c :: linesOf (if c = '\n' then count else count + 1) rest

/-- Asks for so many lines of a script, if someone sits there. -/
def askForLines (runner : Runner) (origin : Origin) (count : Nat) : Activity Unit := do
  if origin = .input && (← state).has .interactive then
    let first ← promptOf runner "PS1"
    let others ← promptOf runner "PS2"
    say 2 (first ++ (List.replicate (count - 1) others).flatten)

/-- The number of loops that a command leaves. -/
def loopCount (arguments : List Chars) : Activity Nat := do
  match arguments with
  | [] => return min 1 (← state).loops
  | text :: _ => do
    let n ← number text
    if n = 0 then badNumber text
    else return min n (← state).loops

/-- The commands that only come out with a status, and leave the flow alone. -/
def plainCommand? (name : String) : Option (List Chars → Activity Nat) :=
  match name with
  | ":" => some fun _ => pure 0
  | "true" => some fun _ => pure 0
  | "false" => some fun _ => pure 1
  | "[" => some runBracket
  | "alias" => some runAlias
  | "bg" => some runForeground
  | "cd" => some runCd
  | "chdir" => some runCd
  | "command" => some runCommand
  | "echo" => some runEcho
  | "export" => some (markVariables false)
  | "fg" => some runForeground
  | "getopts" => some runGetopts
  | "hash" => some runHash
  | "jobs" => some runJobs
  | "kill" => some runKill
  | "local" => some runLocal
  | "printf" => some runPrintf
  | "pwd" => some runPwd
  | "read" => some runRead
  | "readonly" => some (markVariables true)
  | "set" => some runSet
  | "shift" => some runShift
  | "test" => some runTest
  | "times" => some fun _ => runTimes
  | "trap" => some runTrap
  | "type" => some runType
  | "ulimit" => some runLimit
  | "umask" => some runUmask
  | "unalias" => some runUnalias
  | "unset" => some runUnset
  | "wait" => some runWait
  | _ => none

mutual

/-- Runs the commands of a source one after the other. What is missing of it comes from the input.
The flag says that some command was run; if none was, the status is that of success. -/
def runSource (bound : Nat) (mode : Mode) (origin : Origin) (hasRun : Bool) (source : Source) :
    Activity Flow :=
  match bound with
  | 0 => pure .onward
  | bound + 1 => do
    let s ← state
    let source := { source with aliases := s.aliases, nextText := s.nextText, texts := [] }
    let runner : Runner := fun command => do
      let _ ← run bound { exits := true } command
    let show' (lines : Chars) : Activity Unit := do
      askForLines runner origin (lines.count '\n')
      if origin ≠ .text then showLines lines
    match readLine.run source with
    | .error (.invalid line complaint) => do
      show' (linesOf (line + 1 - source.line) source.unread)
      modify fun s => { s with line }
      failText ("Syntax error: " ++ complaint)
    | .error .unfinished => do
      match ← ask (Program.read 0 scriptBlock) with
      | .ok (b :: octets) =>
        let unread := source.unread ++ Text.ofOctets (b :: octets)
        runSource bound mode origin hasRun { source with unread }
      | _ => runSource bound mode origin hasRun { source with isWhole := true }
    | .ok (.endOfScript, _) => do
      show' source.unread
      if origin = .input && s.has .interactive then say 2 ['\n']
      if !hasRun && origin ≠ .input then setStatus 0
      return .onward
    | .ok (.command command isLast, rest) => do
      show' (source.unread.take (source.unread.length - rest.unread.length))
      modify fun s =>
        { s with
          texts := rest.texts ++ s.texts
          nextText := rest.nextText
          readingLine := rest.line }
      let flow ← runOptional bound { mode with exits := mode.exits && isLast } command
      match flow with
      | .onward => runSource bound mode origin (hasRun || command.isSome) rest
      | flow => return flow

/-- Runs a command, if there is one. -/
def runOptional (bound : Nat) (mode : Mode) (command : Option Command) : Activity Flow :=
  match bound with
  | 0 => pure .onward
  | bound + 1 =>
    match command with
    | some command => run bound mode command
    | none => do
      let flow ← answerSignals bound
      if mode.exits then raise .done
      return flow

/-- Runs a script that is a text. -/
def runText (bound : Nat) (mode : Mode) (text : Chars) : Activity Flow :=
  match bound with
  | 0 => pure .onward
  | bound + 1 => runSource bound mode .text false { unread := text }

/-- Runs what is set to be run for signals that came. The status stays what it was, unless another
one was given for leaving a function. -/
def answerSignals (bound : Nat) : Activity Flow :=
  match bound with
  | 0 => pure .onward
  | bound + 1 => do
    let s ← state
    if !s.hasTraps then return .onward
    else
      let signals := (← ask Program.signals).mergeSort fun a b => a ≤ b
      if signals.isEmpty then return .onward
      else
        let status := s.exitStatus.getD s.status
        modify fun s => { s with exitStatus := some status }
        let flows ← signals.mapM fun signal => do
          match (← state).traps.lookup signal with
          | some action => do
            let flow ← runText bound {} action
            if flow ≠ .leaveFunction true then setStatus status
            return flow
          | none => return .onward
        modify fun now => { now with exitStatus := s.exitStatus }
        return flows.foldl Flow.andThen .onward

/-- Runs a command. -/
def run (bound : Nat) (mode : Mode) (command : Command) : Activity Flow :=
  match bound with
  | 0 => pure .onward
  | bound + 1 => do
    if (← state).has .noexec then
      if mode.exits then raise .done
      return .onward
    else
      let before ← answerSignals bound
      let flow ← runNode bound mode command
      let after ← answerSignals bound
      let isChecked :=
        match command with
        | .simple _ _ _ _ => true
        | .pipeline _ _ => true
        | .subshell _ _ _ => true
        | .background _ => true
        | _ => false
      let s ← state
      if mode.exits || (isChecked && !mode.isTested && s.has .errexit && s.status ≠ 0) then
        raise .done
      return (flow.andThen before).andThen after

/-- Runs a command by its kind. -/
def runNode (bound : Nat) (mode : Mode) (command : Command) : Activity Flow :=
  match bound with
  | 0 => pure .onward
  | bound + 1 => do
    let runner : Runner := fun command => do
      let _ ← run bound { exits := true } command
    match command with
    | .simple line assignments words redirections =>
      runSimple bound mode line assignments words redirections
    | .pipeline commands inBackground => do
      let processes ← runPipeline bound mode inBackground true none commands
      if inBackground then
        noteBackground processes
        setStatus 0
      else setStatus (← waitForAll processes 0)
      return .onward
    | .negated command => do
      let flow ← run bound { isTested := true } command
      modify fun s => { s with status := if s.status = 0 then 1 else 0 }
      return flow
    | .sequence first second => do
      match ← run bound mode.inner first with
      | .onward => run bound mode second
      | flow => return flow
    | .andThen first second => do
      match ← run bound { isTested := true } first with
      | .onward => if (← state).status = 0 then run bound mode second else return .onward
      | flow => return flow
    | .orElse first second => do
      match ← run bound { isTested := true } first with
      | .onward => if (← state).status = 0 then return .onward else run bound mode second
      | flow => return flow
    | .background command => do
      let (line, body, redirections) :=
        match command with
        | .redirected line body redirections => (some line, body, redirections)
        | command => (none, command, [])
      if let some line := line then modify fun s => { s with line }
      let prepared ← redirections.mapM (prepare runner)
      let child ← fork do
        leaveTerminal true
        redirectAll runner prepared
        let _ ← run bound { exits := true } body
      noteBackground [child]
      setStatus 0
      return .onward
    | .ifElse condition yes no => do
      match ← run bound { isTested := true } condition with
      | .onward =>
        if (← state).status = 0 then run bound mode yes
        else
          match no with
          | some no => run bound mode no
          | none => do
            setStatus 0
            return .onward
      | flow => return flow
    | .loop until? condition body =>
      inLoop (runLoop bound mode.inner until? condition body 0)
    | .forEach line name words body => do
      modify fun s => { s with line }
      let values ← finishWords runner false words
      inLoop (runRounds bound mode.inner name body 0 values)
    | .caseOf line word arms => do
      modify fun s => { s with line }
      let text ← expandText runner word
      runArms bound mode text arms
    | .subshell line body redirections => do
      modify fun s => { s with line }
      let prepared ← redirections.mapM (prepare runner)
      let inside : Activity Unit := do
        redirectAll runner prepared
        let _ ← run bound { mode with exits := true } body
      if mode.exits && !(← state).hasTraps then
        modify State.copied
        inside
        return .onward
      else
        setStatus (← waitFor (← fork inside))
        return .onward
    | .redirected line body redirections => do
      modify fun s => { s with line }
      let prepared ← redirections.mapM (prepare runner)
      if ← pushRedirections runner prepared then
        let flow ← run bound { isTested := mode.isTested } body
        popRedirections false
        return flow
      else
        popRedirections false
        return .onward
    | .define name body => do
      modify fun s => { s with functions := (name, body) :: s.functions.filter (·.1 != name) }
      setStatus 0
      return .onward

/-- Runs a loop; the last argument is the status that it came out with so far. -/
def runLoop (bound : Nat) (mode : Mode) (until? : Bool) (condition body : Command)
    (status : Nat) : Activity Flow :=
  match bound with
  | 0 => pure .onward
  | bound + 1 => do
    match ← run bound { isTested := true } condition with
    | .onward =>
      if ((← state).status = 0) = until? then
        setStatus status
        return .onward
      else
        let flow ← run bound mode body
        let status := (← state).status
        if flow.endsLoop then return flow.afterLoop
        else runLoop bound mode until? condition body status
    | flow => do
      match flow with
      | .leaveFunction _ => pure ()
      | _ => setStatus status
      if flow.endsLoop then return flow.afterLoop
      else runLoop bound mode until? condition body status

/-- Runs the rounds of a loop over values; the status is the one of the last round. -/
def runRounds (bound : Nat) (mode : Mode) (name : Chars) (body : Command) (status : Nat)
    (values : List Chars) : Activity Flow :=
  match bound, values with
  | 0, _ => pure .onward
  | _, [] => do
    setStatus status
    return .onward
  | bound + 1, value :: rest => do
    assign name value
    let flow ← run bound mode body
    if flow.endsLoop then return flow.afterLoop
    else runRounds bound mode name body (← state).status rest

/-- Runs the first arm whose pattern matches. -/
def runArms (bound : Nat) (mode : Mode) (text : Chars)
    (arms : List (List Word × Option Command)) : Activity Flow :=
  match bound, arms with
  | 0, _ => pure .onward
  | _, [] => do
    setStatus 0
    return .onward
  | bound + 1, (patterns, body) :: rest => do
    let runner : Runner := fun command => do
      let _ ← run bound { exits := true } command
    if ← matchesAny runner text patterns then
      match body with
      | some body => run bound mode body
      | none => do
        setStatus 0
        return .onward
    else runArms bound mode text rest

/-- Starts the commands of a pipeline: each reads from the one before it. The numbers of the
processes are returned in order. -/
def runPipeline (bound : Nat) (mode : Mode) (inBackground isFirst : Bool) (input : Option Nat)
    (commands : List Command) : Activity (List Nat) :=
  match bound, commands with
  | 0, _ => pure []
  | _, [] => pure []
  | bound + 1, command :: rest => do
    lookAhead command
    let output ← if rest.isEmpty then pure none else some <$> ask Program.pipe
    -- The copy keeps only the ends that it uses; a pipe that can be written to never ends.
    let child ← fork do
      if inBackground then leaveTerminal isFirst
      if let some (reading, _) := output then ask (Program.close reading)
      if let some descriptor := input then moveDescriptor descriptor 0
      if let some (_, writing) := output then moveDescriptor writing 1
      let _ ← run bound { mode with exits := true } command
    if let some descriptor := input then ask (Program.close descriptor)
    match output with
    | some (reading, writing) => do
      ask (Program.close writing)
      return child :: (← runPipeline bound mode inBackground false (some reading) rest)
    | none => return [child]

/-- Runs a simple command. -/
def runSimple (bound : Nat) (mode : Mode) (line : Nat) (assignments : List (Chars × Word))
    (words : List Word) (redirections : List Redirection) : Activity Flow :=
  match bound with
  | 0 => pure .onward
  | bound + 1 => do
    Activity.pass
    let runner : Runner := fun command => do
      let _ ← run bound { exits := true } command
    modify fun s => { s with line, substituted := 0 }
    let saved := (← state).saved.length
    let locals := (← state).locals.length
    let first ← WordsRead.reach runner 0 [] words
    let found : Resolved := { words := first }
    let found ← if first.done.isEmpty then pure found else resolve runner mostCharacters true found
    let all := found.words.done
      ++ (← finishWords runner found.takesAssignments found.words.rest)
    let command := all.drop found.start
    let name := command.headD []
    let isLocal := !command.isEmpty && !found.isSpecial
    let isExec : Bool := name = Text.spell "exec" ∧ found.target matches .builtin
    if isLocal then modify fun s => { s with locals := [] :: s.locals }
    let prepared ← redirections.mapM (prepare runner)
    let restore (flow : Flow) (drops : Bool) : Activity Flow := do
      if !redirections.isEmpty then popRedirections drops
      let s ← state
      unwindRedirections s.saved.length saved
      unwindLocals locals
      return flow
    let isRedirected ←
      if redirections.isEmpty then pure true else pushRedirections runner prepared
    if !isRedirected then
      if found.isSpecial then raise .fault
      restore .onward false
    else
      let shown ← makeAssignments runner isLocal (isExec && 1 < command.length) assignments
      showCommand runner (!redirections.isEmpty) (shown ++ all)
      if command.isEmpty then
        modify fun s => { s with status := s.substituted }
        restore .onward false
      else
        match found.target with
        | .function body => do
          let flow ← callFunction bound mode body (command.drop 1)
          restore flow false
        | .builtin => do
          let outer := (← state).command
          modify fun s => { s with command := some name }
          match ← attempt (runBuiltin bound mode name (command.drop 1)) with
          | .ok flow => do
            modify fun s => { s with command := outer }
            restore flow isExec
          | .error raised => do
            modify fun s => { s with command := outer }
            if raised = .fault && !found.isSpecial then restore .onward isExec
            else raise raised
        | .program => do
          let s ← state
          let directories := if found.isTrusted then trustedPath else s.searchPath
          if name.contains '/' then runProgram bound mode command directories
          else
            let lookup ←
              if found.isTrusted then lookIn name .noEntry trustedPath else lookUp name
            match lookup with
            | .missing fault => do
              warn (name ++ Text.spell s!": {startFaultText fault}")
              setStatus 127
            | .found path =>
              -- The directories before the one in which it was found are passed over.
              let file := Text.toOctets name
              let others := directories.dropWhile fun directory => Path.join directory file ≠ path
              runProgram bound mode command others
          restore .onward false

/-- Runs a program in a process of its own, unless this one ends with it. -/
def runProgram (bound : Nat) (mode : Mode) (words : List Chars) (directories : List Path) :
    Activity Unit :=
  match bound with
  | 0 => pure ()
  | _ + 1 => do
    if mode.exits && !(← state).hasTraps then becomeProgram words directories
    else
      let child ← fork (becomeProgram words directories)
      setStatus (← waitFor child)

/-- Calls a function. -/
def callFunction (bound : Nat) (mode : Mode) (body : Command) (arguments : List Chars) :
    Activity Flow :=
  match bound with
  | 0 => pure .onward
  | bound + 1 => do
    let before ← state
    -- Loops around a call are not loops inside the function.
    modify fun s => { s.withArguments arguments with loops := 0 }
    let outcome ← attempt (run bound { isTested := mode.isTested } body)
    modify fun s => { s with arguments := before.arguments, loops := before.loops }
    match outcome with
    | .ok flow => return flow.afterFunction
    | .error raised => raise raised

/-- Runs a command that the shell runs itself. -/
def runBuiltin (bound : Nat) (mode : Mode) (name : Chars) (arguments : List Chars) :
    Activity Flow :=
  match bound with
  | 0 => pure .onward
  | bound + 1 =>
    match String.ofList name with
    | "exit" => do
      if let text :: _ := arguments then
        let status ← number text
        modify fun s => { s with exitStatus := some status }
      raise .told
    | "return" =>
      match arguments with
      | text :: _ => do
        setStatus (← number text)
        return .leaveFunction true
      | [] => return .leaveFunction false
    | "break" => do
      let count ← loopCount arguments
      setStatus 0
      return if count = 0 then .onward else .leaveLoops count
    | "continue" => do
      let count ← loopCount arguments
      setStatus 0
      return if count = 0 then .onward else .nextRound count
    | "eval" =>
      if arguments.isEmpty then do
        setStatus 0
        return .onward
      else
        runText bound { isTested := mode.isTested } (arguments.intersperse [' ']).flatten
    | "exec" => do
      match ← withoutLetters arguments with
      | [] => do
        setStatus 0
        return .onward
      | words => do
        let s ← state
        becomeProgram words s.searchPath
    | "." => do
      match ← withoutLetters arguments with
      | [] => do
        setStatus 0
        return .onward
      | file :: _ => do
        let path ←
          if file.contains '/' then pure (Text.toOctets file)
          else
            match ← scriptPath? file (← state).searchPath with
            | some path => pure path
            | none => fail (file ++ Text.spell ": not found")
        let text ← readScript path
        modify fun s => { s with command := some (Text.ofOctets path) }
        let flow ← runSource bound {} .file false { unread := text }
        return flow.afterFunction
    | other =>
      match plainCommand? other with
      | some activity => do
        setStatus (← activity arguments)
        return .onward
      | none => return .onward

end

end Dialogue.Shell
