import Dialogue.Settings

/-!
Setting up a run change by change. A later change replaces an earlier one of the same setting.
A player may be chosen that has a limit of its own for reads; a limit among the settings counts
before it, no matter which of the two was chosen first.
-/

namespace Dialogue

/-- The settings of a run and the player chosen for it, if one was chosen. -/
structure Setup where
  settings : Settings := {}
  /-- The limit that the chosen player has for reads. -/
  player : Option (Option Duration) := none
deriving Repr, DecidableEq

/-- One change of a setup. -/
inductive Change
  | baseDir (path : Path)
  | targetDir (path : Path)
  | extension (text : String)
  | launcher (program : String)
  /-- Artifacts run by themselves. -/
  | native
  | launcherArgs (arguments : List String)
  | timeout (limit : Duration)
  | verbose (shown : Bool)
  /-- A player with a limit of its own, or without one. -/
  | player (limit : Option Duration)
deriving Repr, DecidableEq

namespace Setup

/-- A setup with its settings changed. -/
def mapSettings (setup : Setup) (f : Settings → Settings) : Setup :=
  { setup with settings := f setup.settings }

/-- Makes one change. -/
def apply (setup : Setup) : Change → Setup
  | .baseDir path => setup.mapSettings fun s => { s with baseDir := path }
  | .targetDir path => setup.mapSettings fun s => { s with targetDir := path }
  | .extension text => setup.mapSettings fun s => { s with extension := text }
  | .launcher program => setup.mapSettings fun s => { s with launcher := some program }
  | .native => setup.mapSettings fun s => { s with launcher := none }
  | .launcherArgs arguments => setup.mapSettings fun s => { s with launcherArgs := arguments }
  | .timeout limit => setup.mapSettings fun s => { s with timeout := some limit }
  | .verbose shown => setup.mapSettings fun s => { s with verbose := shown }
  | .player limit => { setup with player := some limit }

/-- Makes changes one after the other. -/
def applyAll (setup : Setup) (changes : List Change) : Setup :=
  changes.foldl apply setup

/-- How long a read may take: as long as the settings say, and otherwise as long as the player
allows. -/
def limit (setup : Setup) : Option Duration :=
  match setup.settings.timeout with
  | some limit => some limit
  | none => setup.player.join

end Setup

end Dialogue
