import Dialogue.Duration
import Dialogue.Path.Basic
import Dialogue.Text.Line

/-!
The settings of a run: where the build output and the scenarios are, how an artifact is started,
and how long a read may take. Some of them can come from the environment.
-/

namespace Dialogue

/-- The settings of a run. -/
structure Settings where
  /-- The directory from which scenario and build output are looked up. -/
  baseDir : Path := Path.ofText "."
  /-- The directory of the build output. -/
  targetDir : Path := Path.ofText "target/classes"
  /-- The extension of artifacts. -/
  extension : String := "class"
  /-- The program that runs artifacts; without one they run by themselves. -/
  launcher : Option String := some "java"
  /-- The arguments of the launcher before the artifact. -/
  launcherArgs : List String := []
  /-- How long a read may take; without a limit it waits for ever. -/
  timeout : Option Duration := none
  /-- The log is shown for scenarios that pass too. -/
  verbose : Bool := false
deriving Repr, DecidableEq

/-- The environment of a program: its variables with their values. -/
abbrev Environment := List (String × String)

/-- The length of time that a text gives in seconds. The number must be above zero; its length of
time may still round to nothing. -/
def Duration.ofText? (text : List Char) : Option Duration :=
  match Number.Binary64.ofText? text with
  | none => none
  | some seconds => if seconds.isPositive then Duration.ofSeconds? seconds else none

namespace Settings

/-- The variable that asks for the log. -/
def verboseVariable : String := "LUNIT_VERBOSE"

/-- The variable that limits reads. -/
def timeoutVariable : String := "LUNIT_TIMEOUT"

/-- The limit that the environment sets. A value that gives no length of time counts as none. -/
def environmentTimeout (environment : Environment) : Option Duration :=
  match environment.lookup timeoutVariable with
  | none => none
  | some value => Duration.ofText? (Text.trim value.toList)

/-- Settings with what the environment adds. A limit that is already set is kept. -/
def withEnvironment (settings : Settings) (environment : Environment) : Settings :=
  { settings with
    verbose := settings.verbose || (environment.lookup verboseVariable).isSome
    timeout := settings.timeout <|> environmentTimeout environment }

/-- The directory of the build output, seen from the base directory. -/
def targetRoot (settings : Settings) : Path :=
  Path.join settings.baseDir settings.targetDir

end Settings

end Dialogue
