import Dialogue.CommandLine.Request
import Dialogue.Number.Shortest
import Dialogue.Run.Basic
import Dialogue.Text.Line

/-!
What the program does with a command line: it makes the run that is asked for, unless the limit
that is asked for is none, and replies with texts and a status. The first line of a report says how
the run came out; every other line is indented, so that nothing the program under test printed can
look like a first line.
-/

namespace Dialogue

namespace Report

/-- The blanks before every line but the first. -/
def indentation : List Char := List.replicate 6 ' '

/-- The lines of a text, each indented. -/
def indented (text : String) : List (List Char) :=
  (Text.lines text.toList).map (indentation ++ ·)

/-- The line before the log. -/
def logHeading : String := "--- log ---"

/-- The lines that show the log; there are none if the log is empty. -/
def logLines (report : Report) : List (List Char) :=
  if report.log = "" then [] else indented logHeading ++ indented report.log

/-- The lines of a report of a run that took so many milliseconds. The log is shown if the scenario
did not pass, and otherwise only if it is asked for. -/
def lines (report : Report) (verbose : Bool) (milliseconds : Nat) : List (List Char) :=
  if report.verdict.isPassed then
    s!"PASS  {report.name} ({milliseconds}ms)".toList ::
      if verbose then report.logLines else []
  else
    s!"FAIL  {report.name}".toList :: indented report.verdict.text ++ report.logLines

/-- The text of a report. -/
def text (report : Report) (verbose : Bool) (milliseconds : Nat) : String :=
  String.ofList ((report.lines verbose milliseconds).flatMap (· ++ ['\n']))

end Report

namespace CommandLine

open Number (Binary64)

/-- What the program replies. -/
structure Reply where
  /-- The status with which the program ends, below 256. -/
  status : Nat
  stdout : String := ""
  stderr : String := ""
deriving Repr, DecidableEq

/-- A status as the system keeps it: the lowest eight bits. -/
def keptStatus (status : Int) : Nat := (status % 256).toNat

/-- A number of seconds that is no limit. -/
structure BadLimit where
  seconds : Binary64
deriving Repr, DecidableEq

/-- The text of a limit that is none. What is above zero was refused because it is too long. -/
def BadLimit.message (bad : BadLimit) : String :=
  let said := s!"invalid --timeout: {String.ofList bad.seconds.text}"
  if bad.seconds.isPositive then
    said ++ ": cannot convert float seconds to Duration: value is either too big or NaN"
  else said

/-- The limit that a request sets, if it sets one. -/
def Request.limit (request : Request) : Except BadLimit (Option Duration) :=
  match request.timeout with
  | none => .ok none
  | some seconds =>
    match if seconds.isPositive then Duration.ofSeconds? seconds else none with
    | some limit => .ok (some limit)
    | none => .error ⟨seconds⟩

/-- The settings that a request makes in a directory, without the environment. -/
def Request.settings (request : Request) (directory : Path) (limit : Option Duration) : Settings :=
  { baseDir := directory
    targetDir := request.targetDir
    extension := request.extension
    launcher := request.launcher
    launcherArgs := request.launcherArgs
    timeout := limit
    verbose := request.verbose }

/-- What came of a command line. -/
inductive Outcome
  /-- There was no request. -/
  | stopped (stop : Stop)
  /-- There was a request, but its limit is none. -/
  | noLimit (bad : BadLimit)
  /-- The run failed before there was a verdict. -/
  | failed (failure : Failure)
  /-- There is a report, to be shown with its log or without. -/
  | reported (report : Report) (verbose : Bool)
deriving Repr, DecidableEq

variable {η σ : Type} [Host η σ] [Peer σ]

/-- Does what a request asks for. -/
def Request.perform (request : Request) (environment : Environment) (directory : Path)
    (host : η) : Outcome × η :=
  match request.limit with
  | .error bad => (.noLimit bad, host)
  | .ok limit =>
    let settings := (request.settings directory limit).withEnvironment environment
    match Run.run { settings } request.entry request.script host with
    | (.error failure, host) => (.failed failure, host)
    | (.ok report, host) => (.reported report settings.verbose, host)

/-- Does what a command line asks for. -/
def perform (arguments : List String) (environment : Environment) (directory : Path)
    (host : η) : Outcome × η :=
  match Request.ofArguments arguments with
  | .error stop => (.stopped stop, host)
  | .ok request => request.perform environment directory host

/-- The reply to a command line that took so many milliseconds. -/
def Outcome.reply (milliseconds : Nat) : Outcome → Reply
  | .stopped (.shows text) => { status := 0, stdout := text }
  | .stopped (.refused complaint) => { status := 2, stderr := s!"error: {complaint.message}\n" }
  | .noLimit bad => { status := keptStatus (-1), stderr := s!"error: {bad.message}\n" }
  | .failed failure => { status := keptStatus failure.status, stdout := failure.text ++ "\n" }
  | .reported report verbose =>
    { status := keptStatus report.verdict.status, stdout := report.text verbose milliseconds }

end CommandLine

end Dialogue
