import Dialogue.Artifact.Search
import Dialogue.Failure
import Dialogue.Run.Setup
import Dialogue.Session.Play

/-!
A run: the artifact of an entry is located, the scenario is read, and only if both succeed the
program is started and the scenario is played with it. The first of these that fails is reported.
What a run asks of the files that are there, and how it starts a program, is up to its surroundings.
-/

namespace Dialogue

/-- A program to be started. -/
structure Command where
  program : String
  arguments : List String
  /-- The directory in which it runs. -/
  directory : Path
deriving Repr, DecidableEq

/-- The surroundings of a run, in a state `η`; programs are started as peers `σ`. Asking changes
nothing; starting a program may. -/
class Host (η : Type) (σ : outParam Type) where
  /-- What a search sees at a path; nothing if no directory is there. -/
  survey : η → Path → Option Directory
  /-- The content of the file at a path. -/
  read : η → Path → Except Fault Octets
  /-- The absolute path without links that a path leads to, if it leads anywhere. -/
  canonical? : η → Path → Option Path
  /-- Starts a program. -/
  start : η → Command → Except Fault σ × η

/-- What came of a run that got as far as playing. -/
structure Report where
  /-- The name of the scenario. -/
  name : String
  /-- The scenario's file as it was given. -/
  file : Path
  verdict : Verdict
  log : String
deriving Repr, DecidableEq

namespace Run

/-- A scenario that is ready to be played, with the program to play it with. -/
structure Ready where
  scenario : Scenario
  command : Command
deriving Repr, DecidableEq

/-- The name of a scenario: that of its file, if it is text. -/
def nameOf (path : Path) : String :=
  match (Path.fileName? path).bind Text.decode? with
  | some name => String.ofList name
  | none => "unknown"

/-- The fault of a scenario that is not text. -/
def notText : Fault := .described .invalidData (some "stream did not contain valid UTF-8")

/-- The command for an artifact: the launcher with its arguments and the artifact's reference, or
without a launcher the artifact itself, by its absolute path if it has one. The scenario's own
arguments come last. The program runs in the directory of the build output. -/
def commandFor (settings : Settings) (canonical : Option Path) (artifact : Path)
    (arguments : List String) : Command :=
  let directory := settings.targetRoot
  match settings.launcher with
  | some launcher =>
    { program := launcher
      arguments := settings.launcherArgs ++ Artifact.reference directory artifact :: arguments
      directory }
  | none => { program := Path.text (canonical.getD artifact), arguments, directory }

variable {η σ : Type} [Host η σ]

/-- Locates the artifact of an entry. -/
def locate (settings : Settings) (entry : String) (host : η) : Except Failure Path :=
  let root := settings.targetRoot
  (Artifact.locate root (Host.survey host root) entry settings.extension).mapError
    Failure.ofLocateError

/-- Reads the text of a scenario. -/
def readText (settings : Settings) (script : Path) (host : η) : Except Failure String :=
  match Host.read host (Path.join settings.baseDir script) with
  | .error fault => .error (.ofScriptFault script fault)
  | .ok octets =>
    match Text.decode? octets with
    | some text => .ok (String.ofList text)
    | none => .error (.ofScriptFault script notText)

/-- Reads a scenario. A reserved directive is reported with the file as it was given and the
line. -/
def readScenario (settings : Settings) (script : Path) (host : η) : Except Failure Scenario :=
  match readText settings script host with
  | .error failure => .error failure
  | .ok text =>
    (Scenario.read (nameOf (Path.join settings.baseDir script)) text).mapError fun e =>
      (Failure.ofReserved e).atLine (Path.text script) e.line

/-- Everything before the start of the program. -/
def prepare (settings : Settings) (entry : String) (script : Path) (host : η) :
    Except Failure Ready :=
  match locate settings entry host with
  | .error failure => .error failure
  | .ok artifact =>
    match readScenario settings script host with
    | .error failure => .error failure
    | .ok scenario =>
      .ok ⟨scenario, commandFor settings (Host.canonical? host artifact) artifact
        scenario.arguments⟩

/-- Makes a run. -/
def run [Peer σ] (setup : Setup) (entry : String) (script : Path) (host : η) :
    Except Failure Report × η :=
  match prepare setup.settings entry script host with
  | .error failure => (.error failure, host)
  | .ok ready =>
    match Host.start host ready.command with
    | (.error fault, host) =>
      (.error (.ofPeerError (.start ready.command.program fault)), host)
    | (.ok peer, host) =>
      let (verdict, x) := play setup.limit ready.scenario ⟨{}, peer⟩
      (.ok ⟨ready.scenario.name, script, verdict, x.session.log⟩, host)

end Run

end Dialogue
