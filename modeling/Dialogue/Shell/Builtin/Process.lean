import Dialogue.Shell.Builtin.Letters

/-!
Commands about processes: signals and what is done about them, and the jobs in the background.
-/

namespace Dialogue.Shell

open Activity Machine

/-- The number of a signal in digits. -/
def signalNumber? (text : Chars) : Option Nat :=
  if text.isEmpty || !text.all Char.isDigit then none
  else
    match Text.integer? text with
    | some n => if n < (Signal.limit : Nat) then some n.toNat else none
    | none => none

/-- The number of a signal, from the given one on, by its number or its name. -/
def signal? (least : Nat) (text : Chars) : Option Nat :=
  match signalNumber? text with
  | some n => some n
  | none => Signal.ofName? least text

/-- Sets what is run for a signal. -/
def setTrap (signal : Nat) (action : Option Chars) : Activity Unit := do
  modify (·.setTrap signal action)
  if signal ≠ 0 then
    respondTo signal
      (match action with
        | none => .ends
        | some [] => .ignores
        | some _ => .notes)

/-- Sets what is run for signals, one after the other, until one of them is none. -/
def setTraps (action : Option Chars) : List Chars → Activity Nat
  | [] => pure 0
  | text :: rest => do
    match signal? 0 text with
    | none => do
      say 2 (Text.spell "trap: " ++ text ++ Text.spell ": bad trap\n")
      return 1
    | some signal => do
      setTrap signal action
      setTraps action rest

/-- Sets what is run for signals and at the end, or lists it. -/
def runTrap (arguments : List Chars) : Activity Nat := do
  match ← withoutLetters arguments with
  | [] =>
    let traps := (← state).traps.mergeSort fun a b => a.1 ≤ b.1
    let lines := traps.map fun (signal, action) =>
      Text.spell "trap -- " ++ singleQuoted action ++ ' ' :: (Signal.name signal).toList ++ ['\n']
    printOut lines.flatten
  | [signal] => setTraps none [signal]
  | action :: signals =>
    if (signalNumber? action).isSome then setTraps none (action :: signals)
    else setTraps (if action = ['-'] then none else some action) signals

/-- The job that an argument names, by its number or by where it stands in the list. -/
def jobOf (argument : Chars) : Activity Job := do
  let jobs := (← state).jobs
  let missing : Activity Job := fail (Text.spell "No such job: " ++ argument)
  let current (job : Option Job) (text : String) : Activity Job :=
    match job with
    | some job => pure job
    | none => failText text
  match argument with
  | [] => current jobs.head? "No current job"
  | ['%'] => current jobs.head? "No current job"
  | ['%', '%'] => current jobs.head? "No current job"
  | ['%', '+'] => current jobs.head? "No current job"
  | ['%', '-'] => current jobs[1]? "No previous job"
  | '%' :: digits =>
    match if digits.all Char.isDigit then Text.integer? digits else none with
    | some n =>
      match jobs.find? (·.number == n.toNat) with
      | some job => return job
      | none => missing
    | none => missing
  | _ => missing

/-- The complaint about a `kill` that makes no sense. -/
def killUsage : Activity Nat :=
  failText
    ("Usage: kill [-s sigspec | -signum | -sigspec] [pid | job]... or\n" ++ "kill -l [exitstatus]")

/-- Sends a signal to a process that an argument names. The answer is whether it was sent. A group
of processes has the number of none. -/
def sendTo (signal : Nat) (target : Chars) : Activity Bool := do
  let missing : Activity Bool := do
    warn (Text.spell (Fault.system 3).systemText ++ ['\n'])
    return false
  match target with
  | '%' :: _ => do
    let _ ← jobOf target
    missing
  | '-' :: digits => do
    let _ ← number digits
    missing
  | target => do
    match ← ask (Program.kill (← number target) signal) with
    | .ok _ => return true
    | .error _ => missing

/-- Tells the name of the signal of a number or of a status. -/
def nameSignal (argument : Chars) : Activity Nat := do
  let n ← number argument
  let signal := if 128 < n then n - 128 else n
  if 0 < signal && signal < Signal.limit then
    printOut ((Signal.name signal).toList ++ ['\n'])
  else fail (Text.spell "invalid signal number or exit status: " ++ argument)

/-- Sends a signal to processes, or tells the names of signals. -/
def runKill (arguments : List Chars) : Activity Nat := do
  let send (signal : Nat) (targets : List Chars) : Activity Nat := do
    if targets = [] then killUsage
    else
      let sent ← targets.mapM (sendTo signal)
      return if sent.all id then 0 else 1
  match arguments with
  | [] => killUsage
  | ('-' :: name) :: rest =>
    match signal? 1 name with
    | some signal => send signal rest
    | none => do
      let (letters, rest) ← readLetters "l" "s" arguments
      let signals ← (letters.filter (·.letter == 's')).mapM fun letter => do
        match signal? 1 letter.value with
        | some signal => pure signal
        | none => fail (Text.spell "invalid signal number or name: " ++ letter.value)
      if isGiven 'l' letters then
        if !signals.isEmpty then killUsage
        else
          match rest with
          | [] =>
            let names := (List.range Signal.limit).map fun n =>
              (if n = 0 then "0" else Signal.name n) ++ "\n"
            printOut (Text.spell (String.join names))
          | argument :: _ => nameSignal argument
      else send (signals.getLastD 15) rest
  | targets => send 15 targets

/-- Waits for a process in the background, unless a signal comes that something is to be run for.
The answer is the signal that came. -/
def awaitProcess (id : Nat) (shown : Bool) : Activity (Option Nat) := do
  match ← ask (Program.wait id true) with
  | .ended how => do
    if shown then tellEnding how
    modify fun s => s.noteEnding id how
    return none
  | .absent => do
    modify fun s => s.noteEnding id (.exited 127)
    return none
  | .interrupted signal => return some signal

/-- Waits for the processes of a job, as long as no signal comes. -/
def awaitProcesses (shown : Bool) : List (Nat × Option Ending) → Activity (Option Nat)
  | [] => pure none
  | (id, none) :: rest => do
    match ← awaitProcess id shown with
    | none => awaitProcesses shown rest
    | some signal => return some signal
  | (_, some _) :: rest => awaitProcesses shown rest

/-- The status of a job that has ended. -/
def Job.status (job : Job) : Nat :=
  match job.processes.getLast? with
  | some (_, some how) => statusOf how
  | _ => 127

/-- Notes that a job has been waited for. -/
def noteWaited (number : Nat) : Activity Unit :=
  modify fun s =>
    { s with
      jobs := s.jobs.map fun job => if job.number = number then { job with isWaited := true }
        else job }

/-- Waits for jobs one after the other: the status of the last. -/
def awaitNamed : List Chars → Nat → Activity Nat
  | [], status => pure status
  | argument :: rest, _ => do
    let jobs := (← state).jobs
    let job ←
      match argument with
      | '%' :: _ => do pure (some (← jobOf argument))
      | argument => do
        let id ← number argument
        pure (jobs.find? fun job => job.processes.getLast?.any (·.1 == id))
    match job with
    | none => awaitNamed rest 127
    | some job => do
      match ← awaitProcesses true job.processes with
      | some signal => return 128 + signal
      | none => do
        noteWaited job.number
        let job := ((← state).jobs.find? (·.number == job.number)).getD job
        awaitNamed rest job.status

/-- Waits for all jobs. -/
def awaitAll : List Job → Activity Nat
  | [] => pure 0
  | job :: rest => do
    match ← awaitProcesses false job.processes with
    | some signal => return 128 + signal
    | none => do
      noteWaited job.number
      awaitAll rest

/-- Waits for jobs, for all of them if none is named. -/
def runWait (arguments : List Chars) : Activity Nat := do
  match ← withoutLetters arguments with
  | [] => awaitAll (← state).jobs
  | arguments => awaitNamed arguments 0

/-- Looks whether the processes of a job still run. -/
def refreshJob (job : Job) : Activity Unit :=
  job.processes.forM fun (id, ending) => do
    if ending.isNone then
      if !(← ask (Program.isRunning id)) then
        let _ ← awaitProcess id false

/-- The line that shows a job. -/
def jobLine (jobs : List Job) (withProcesses : Bool) (job : Job) : Chars :=
  let sign : Char :=
    if jobs.head?.any (·.number == job.number) then '+'
    else if jobs[1]?.any (·.number == job.number) then '-'
    else ' '
  let start := Text.spell s!"[{job.number}] " ++ [sign, ' ']
  let process (p : Nat × Option Ending) : Chars :=
    if withProcesses then Text.decimal p.1 ++ [' '] else []
  let said :=
    if job.isRunning then Text.spell "Running"
    else
      match job.processes.getLast? with
      | some (_, some (.killed signal)) => Text.spell (Signal.text signal)
      | some (_, some (.exited 0)) => Text.spell "Done"
      | some (_, some (.exited code)) => Text.spell s!"Done({code})"
      | _ => []
  let fill (text : Chars) : Chars := text ++ List.replicate (max (33 - text.length) 1) ' '
  match job.processes with
  | [] => []
  | first :: rest =>
    let line := fill (start ++ process first ++ said)
    let others :=
      if withProcesses then
        rest.flatMap fun p =>
          fill (Text.spell " |\n" ++ List.replicate start.length ' ' ++ process p)
      else []
    line ++ others ++ ['\n']

/-- Shows jobs; those that have ended are forgotten. -/
def showJobs (withProcesses : Bool) (onlyIds : Bool) (chosen : List Job) : Activity Nat := do
  chosen.forM refreshJob
  let s ← state
  let chosen := chosen.filterMap fun job => s.jobs.find? (·.number == job.number)
  let lines := chosen.map fun job =>
    if onlyIds then (job.processes.head?.map fun p => Text.decimal p.1 ++ ['\n']).getD []
    else jobLine s.jobs withProcesses job
  modify fun s =>
    { s with
      jobs := s.jobs.filter fun job =>
        job.isRunning || !chosen.any (·.number == job.number) }
  printOut lines.flatten

/-- Shows the jobs in the background. -/
def runJobs (arguments : List Chars) : Activity Nat := do
  let (letters, arguments) ← readLetters "lp" "" arguments
  let last := letters.getLast?.map (·.letter)
  let show' (jobs : List Job) : Activity Nat := showJobs (last = some 'l') (last = some 'p') jobs
  match arguments with
  | [] => show' (← state).jobs
  | arguments => do
    let jobs ← arguments.mapM jobOf
    show' jobs

/-- Brings a job to the fore or lets it go on behind, which this shell cannot do. -/
def runForeground (arguments : List Chars) : Activity Nat := do
  let job ← jobOf (arguments.headD [])
  fail (Text.spell s!"job {job.number} not created under job control")

end Dialogue.Shell
