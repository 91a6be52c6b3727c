import Dialogue.Proofs.Play.CallOrder
import Dialogue.Run.Basic
import Mathlib.Data.List.Induction

/-!
Setups that are changed. Of the changes of one kind the last one counts, whatever stands between
them; to choose a launcher and to do without one are of one kind. How long a read may take is what the
last limit says, wherever it stands, and only where there is none what the last player allows.
-/

namespace Dialogue

-----------------------------------------------------------------------------------------
-- Choices
-----------------------------------------------------------------------------------------

/-- What is chosen for a setup, as far as anything is. -/
@[ext]
structure Choices where
  baseDir : Option Path := none
  targetDir : Option Path := none
  extension : Option String := none
  /-- A launcher, or that there is none. -/
  launcher : Option (Option String) := none
  launcherArgs : Option (List String) := none
  timeout : Option Duration := none
  verbose : Option Bool := none
  /-- A player, with a limit of its own or without one. -/
  player : Option (Option Duration) := none

/-- What a change chooses. -/
def Change.choice : Change → Choices
  | .baseDir path => { baseDir := some path }
  | .targetDir path => { targetDir := some path }
  | .extension text => { extension := some text }
  | .launcher program => { launcher := some (some program) }
  | .native => { launcher := some none }
  | .launcherArgs arguments => { launcherArgs := some arguments }
  | .timeout limit => { timeout := some limit }
  | .verbose shown => { verbose := some shown }
  | .player limit => { player := some limit }

/-- The choice of the last change that makes one of a kind; there is none if no change does. -/
inductive Latest {α : Type} (chosen : Change → Option α) (changes : List Change)
    : Option α → Prop
  | last {before after : List Change} {change : Change} {value : α}
    (split : changes = before ++ change :: after) (chooses : chosen change = some value)
    (later : ∀ other ∈ after, chosen other = none)
    : Latest chosen changes (some value)
  | never (silent : ∀ change ∈ changes, chosen change = none) : Latest chosen changes none

namespace Choices

/-- The choices are those of the last changes, kind by kind. -/
structure LastOf (choices : Choices) (changes : List Change) : Prop where
  baseDir : Latest (·.choice.baseDir) changes choices.baseDir
  targetDir : Latest (·.choice.targetDir) changes choices.targetDir
  extension : Latest (·.choice.extension) changes choices.extension
  launcher : Latest (·.choice.launcher) changes choices.launcher
  launcherArgs : Latest (·.choice.launcherArgs) changes choices.launcherArgs
  timeout : Latest (·.choice.timeout) changes choices.timeout
  verbose : Latest (·.choice.verbose) changes choices.verbose
  player : Latest (·.choice.player) changes choices.player

/-- Choices, and where there are none those that were made earlier. -/
def orElse (later earlier : Choices) : Choices where
  baseDir := later.baseDir.or earlier.baseDir
  targetDir := later.targetDir.or earlier.targetDir
  extension := later.extension.or earlier.extension
  launcher := later.launcher.or earlier.launcher
  launcherArgs := later.launcherArgs.or earlier.launcherArgs
  timeout := later.timeout.or earlier.timeout
  verbose := later.verbose.or earlier.verbose
  player := later.player.or earlier.player

/-- The choices of changes that are made one after the other. -/
def ofChanges (changes : List Change) : Choices :=
  changes.foldl (fun earlier change => change.choice.orElse earlier) {}

/-- A setup in which what is chosen replaces what was there. -/
def applyTo (choices : Choices) (setup : Setup) : Setup where
  settings := {
    baseDir := choices.baseDir.getD setup.settings.baseDir
    targetDir := choices.targetDir.getD setup.settings.targetDir
    extension := choices.extension.getD setup.settings.extension
    launcher := choices.launcher.getD setup.settings.launcher
    launcherArgs := choices.launcherArgs.getD setup.settings.launcherArgs
    timeout := choices.timeout.or setup.settings.timeout
    verbose := choices.verbose.getD setup.settings.verbose
  }
  player := choices.player.or setup.player

end Choices

-----------------------------------------------------------------------------------------
-- The last change of a kind
-----------------------------------------------------------------------------------------

namespace Latest

variable {α : Type} {chosen : Change → Option α} {changes : List Change}

/-- A further change counts if it is of the kind, and otherwise what counted before. -/
theorem concat {answer : Option α} (latest : Latest chosen changes answer) (change : Change)
    : Latest chosen (changes ++ [change]) ((chosen change).or answer) := by
  cases chooses : chosen change with
  | some value => exact .last rfl chooses (by simp)
  | none =>
      have silent : ∀ other ∈ [change], chosen other = none := by simpa using chooses
      rw [Option.none_or]
      cases latest with
      | @last before after earlier value split earlierChooses later =>
          have moved : changes ++ [change] = before ++ earlier :: (after ++ [change]) := by
            rw [split, List.append_assoc, List.cons_append]
          exact .last moved earlierChooses (List.forall_mem_append.mpr ⟨later, silent⟩)
      | never others => exact .never (List.forall_mem_append.mpr ⟨others, silent⟩)

/-- The last choice of a kind is the last one that is found. -/
theorem eq_getLast? {answer : Option α} (latest : Latest chosen changes answer)
    : answer = (changes.filterMap chosen).getLast? := by
  cases latest with
  | @last before after change value split chooses later =>
      have nothing : after.filterMap chosen = [] := List.filterMap_eq_nil_iff.mpr later
      rw [split, List.filterMap_append, List.filterMap_cons_some chooses, nothing,
        List.getLast?_concat]
  | never silent =>
      rw [List.filterMap_eq_nil_iff.mpr silent]
      rfl

/-- Of each kind there is one last choice. -/
theorem unique {answer other : Option α} (latest : Latest chosen changes answer)
    (again : Latest chosen changes other)
    : answer = other :=
  latest.eq_getLast?.trans again.eq_getLast?.symm

end Latest

namespace Choices

variable {changes : List Change} {choices others : Choices}

/-- Without changes nothing was chosen. -/
theorem lastOf_nil
    : LastOf {} [] := by
  constructor <;> exact .never (by simp)

/-- A further change adds its choice over the others. -/
theorem LastOf.concat (last : choices.LastOf changes) (change : Change)
    : (change.choice.orElse choices).LastOf (changes ++ [change]) where
  baseDir := last.baseDir.concat change
  targetDir := last.targetDir.concat change
  extension := last.extension.concat change
  launcher := last.launcher.concat change
  launcherArgs := last.launcherArgs.concat change
  timeout := last.timeout.concat change
  verbose := last.verbose.concat change
  player := last.player.concat change

/-- Changes have one last choice of each kind. -/
theorem LastOf.unique (last : choices.LastOf changes) (again : others.LastOf changes)
    : choices = others :=
  Choices.ext (last.baseDir.unique again.baseDir) (last.targetDir.unique again.targetDir)
    (last.extension.unique again.extension) (last.launcher.unique again.launcher)
    (last.launcherArgs.unique again.launcherArgs) (last.timeout.unique again.timeout)
    (last.verbose.unique again.verbose) (last.player.unique again.player)

/-- A further change puts its choice over those of the others. -/
theorem ofChanges_concat (changes : List Change) (change : Change)
    : ofChanges (changes ++ [change]) = change.choice.orElse (ofChanges changes) := by
  simp only [ofChanges, List.foldl_append, List.foldl_cons, List.foldl_nil]

/-- Changes that are made in order come to the last choice of each kind. Witness: induction on the
changes from the last one, which alone counts for its kind.
-/
theorem lastOf_ofChanges (changes : List Change)
    : (ofChanges changes).LastOf changes := by
  induction changes using List.reverseRecOn with
  | nil => exact lastOf_nil
  | append_singleton changes change ih =>
      rw [ofChanges_concat]
      exact ih.concat change

/-- What is chosen over other choices replaces what they brought. -/
theorem applyTo_orElse (later earlier : Choices) (setup : Setup)
    : (later.orElse earlier).applyTo setup = later.applyTo (earlier.applyTo setup) := by
  simp only [applyTo, orElse, Option.getD_or, Option.or_assoc]

end Choices

-----------------------------------------------------------------------------------------
-- Setups and runs
-----------------------------------------------------------------------------------------

namespace Setup

/-- A change replaces what it chooses, by cases on the change. -/
theorem apply_eq (setup : Setup) (change : Change)
    : setup.apply change = change.choice.applyTo setup := by
  cases change <;> rfl

/-- Changes replace what they choose last, by induction on them from the last one. -/
theorem applyAll_eq (setup : Setup) (changes : List Change)
    : setup.applyAll changes = (Choices.ofChanges changes).applyTo setup := by
  induction changes using List.reverseRecOn with
  | nil => rfl
  | append_singleton changes change ih =>
      rw [Choices.ofChanges_concat, Choices.applyTo_orElse, ← ih, ← apply_eq]
      simp only [applyAll, List.foldl_append, List.foldl_cons, List.foldl_nil]

end Setup

/-- Setups that cannot be told apart: they have the same settings, read as long and make the same
runs.
-/
structure Setup.Alike (setup other : Setup) : Prop where
  settings : setup.settings = other.settings
  limit : setup.limit = other.limit
  runs
    : ∀ {η σ : Type} [Host η σ] [Peer σ] (entry : String) (script : Path) (host : η),
        Run.run setup entry script host = Run.run other entry script host

/-- What a setup comes to in which these choices were made last. -/
structure Setup.Shows (setup : Setup) (choices : Choices) : Prop where
  settings
    : setup.settings = {
        baseDir := choices.baseDir.getD (Path.ofText ".")
        targetDir := choices.targetDir.getD (Path.ofText "target/classes")
        extension := choices.extension.getD "class"
        launcher := choices.launcher.getD (some "java")
        launcherArgs := choices.launcherArgs.getD []
        timeout := choices.timeout
        verbose := choices.verbose.getD false
      }
  limited : ∀ {limit : Duration}, choices.timeout = some limit → setup.limit = some limit
  /-- Without a limit among the settings that of the player counts. -/
  played
    : ∀ {limit : Option Duration},
        choices.timeout = none → choices.player = some limit → setup.limit = limit
  unlimited : choices.timeout = none → choices.player = none → setup.limit = none
  /-- It is the limit of every read that a step makes. -/
  reads
    : ∀ {σ : Type} [Peer σ] {steps : List Step} {x : Exchange σ} {stream : Stream}
        {limit : Option Duration} {answer : Reception},
        .receive stream limit answer ∈ x.stepsCalls setup.limit 1 steps → limit = setup.limit
  /-- Other changes that come to the same choices make no difference, and neither does the player
  where a limit is chosen.
  -/
  alike
    : ∀ {others : List Change} {player : Option (Option Duration)},
        { choices with player }.LastOf others
        → (choices.timeout = none → player = choices.player)
        → (({} : Setup).applyAll others).Alike setup

namespace Choices

variable {changes : List Change} {choices : Choices}

/-- Changes bring a setup to their last choices. -/
theorem LastOf.applyAll_eq (last : choices.LastOf changes) (setup : Setup)
    : setup.applyAll changes = choices.applyTo setup := by
  rw [Setup.applyAll_eq, (lastOf_ofChanges changes).unique last]

/-- How long reads may take once choices were made. -/
theorem limit_applyTo (choices : Choices)
    : (choices.applyTo {}).limit = choices.timeout.or choices.player.join := by
  unfold Setup.limit applyTo
  rw [Option.or_none, Option.or_none]
  cases choices.timeout <;> rfl

/-- Where a limit is chosen it does not matter which player is. -/
theorem limit_withPlayer {player : Option (Option Duration)}
    (same : choices.timeout = none → player = choices.player)
    : ({ choices with player }.applyTo {}).limit = (choices.applyTo {}).limit := by
  rw [limit_applyTo, limit_applyTo]
  cases chosen : choices.timeout with
  | some limit => rfl
  | none => rw [same chosen]

end Choices

/-- Setups that come to the same settings and the same limit are alike: a run depends on nothing
else.
-/
theorem Setup.alike_of_eq {setup other : Setup} (settings : setup.settings = other.settings)
    (limit : setup.limit = other.limit)
    : setup.Alike other where
  settings
  limit
  runs entry script host := by simp only [Run.run, settings, limit]

/-- Of the changes of a setup the last one of each kind counts, and without one what a setup has to
begin with. How long a read may take is said by the last limit, wherever it stands; where there is
none by the last player; and where there is neither, nothing limits it.
-/
theorem setup_shows_last_choices (changes : List Change)
    : (∃ choices : Choices, choices.LastOf changes)
        ∧ ∀ choices : Choices,
            choices.LastOf changes → (({} : Setup).applyAll changes).Shows choices := by
  refine ⟨⟨_, Choices.lastOf_ofChanges changes⟩, ?_⟩
  intro choices last
  rw [last.applyAll_eq]
  have limit := choices.limit_applyTo
  constructor
  case settings => simp only [Choices.applyTo, Option.or_none]
  case limited =>
    intro limit' chosen
    rw [limit, chosen, Option.some_or]
  case played =>
    intro limit' unchosen chosen
    rw [limit, unchosen, chosen, Option.none_or, Option.join_some]
  case unlimited =>
    intro unchosen unplayed
    rw [limit, unchosen, unplayed]
    rfl
  case reads =>
    intro σ _ steps x stream limit' answer made
    exact (x.stepsCalls_taken _ 1 steps).2.limit_eq made
  case alike =>
    intro others player lastOther same
    rw [lastOther.applyAll_eq]
    exact Setup.alike_of_eq rfl (Choices.limit_withPlayer same)

/-- A limit counts before a player that is chosen after it, and a launcher that is given up later does
not count; fewer changes in another order, with another player, come to the same.
-/
theorem setup_shows_last_choices_of_rivals
    : let limit : Duration := ⟨3000000000⟩
      let quick : Duration := ⟨5000000⟩
      let changes : List Change := [
        .launcher "node", .timeout quick, .timeout limit, .baseDir (Path.ofText "a"), .native,
        .baseDir (Path.ofText "b"), .player (some quick)
      ]
      let others : List Change := [
        .player none, .native, .baseDir (Path.ofText "b"), .timeout limit
      ]
      let setup := ({} : Setup).applyAll changes
      setup.settings
          = { baseDir := Path.ofText "b", launcher := none, timeout := some limit }
        ∧ setup.limit = some limit
        ∧ (({} : Setup).applyAll others).Alike setup := by
  intro limit quick changes others setup
  have last
      : Choices.LastOf
          {
            baseDir := some (Path.ofText "b")
            launcher := some none
            timeout := some limit
            player := some (some quick)
          }
          changes :=
    Choices.lastOf_ofChanges changes
  have shows := (setup_shows_last_choices changes).2 _ last
  have lastOther
      : Choices.LastOf
          {
            baseDir := some (Path.ofText "b")
            launcher := some none
            timeout := some limit
            player := some none
          }
          others :=
    Choices.lastOf_ofChanges others
  refine ⟨shows.settings, shows.limited rfl, shows.alike lastOther ?_⟩
  intro unchosen
  cases unchosen

end Dialogue
