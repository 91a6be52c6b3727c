import Dialogue.Proofs.Scenario.Refusing

/-!
A run phase by phase. The artifact is located, the script is read as text and the text as a
scenario, and only then is a program started; the first of these that fails is what the run reports.
What is started is the launcher with its own arguments, the reference of the artifact and the
arguments of the script, or the artifact itself with the arguments of the script.
-/

namespace Dialogue

namespace Text

/-- The octets of a text are read as the text. -/
theorem decode?_octets (text : String)
    : decode? (octets text) = some text.toList :=
  decode?_eq_some_iff.mpr rfl

/-- Octets cannot be read just if they are those of no text. -/
theorem decode?_eq_none_iff {content : Octets}
    : decode? content = none ↔ ∀ text, content ≠ octets text := by
  constructor
  · rintro undecoded text rfl
    cases undecoded.symm.trans (decode?_octets text)
  · intro noText
    refine Option.eq_none_iff_forall_ne_some.mpr fun characters decoded => ?_
    refine noText (String.ofList characters) ?_
    rw [decode?_eq_some_iff.mp decoded, octets, String.toList_ofList]

end Text

-----------------------------------------------------------------------------------------
-- What is started
-----------------------------------------------------------------------------------------

/-- Surroundings together with the commands they were given to start so far, the latest first. -/
structure Watched (η : Type) where
  host : η
  latest : List Command := []

namespace Watched

variable {η σ : Type}

/-- The commands in the order in which they were given. -/
def commands (watched : Watched η) : List Command := watched.latest.reverse

instance [Host η σ] : Host (Watched η) σ where
  survey watched path := Host.survey watched.host path
  read watched path := Host.read watched.host path
  canonical? watched path := Host.canonical? watched.host path
  start watched command :=
    let (answer, host) := Host.start watched.host command
    (answer, ⟨host, command :: watched.latest⟩)

end Watched

namespace Run

variable {η σ : Type} [Host η σ]

/-- The commands that a run gives to start, in order. -/
def commands [Peer σ] (setup : Setup) (entry : String) (script : Path) (host : η)
    : List Command :=
  (run setup entry script ({ host } : Watched η)).2.commands

/-- Before the start the surroundings are only asked, and answer as they do when nobody watches. -/
theorem prepare_watched (settings : Settings) (entry : String) (script : Path)
    (watched : Watched η)
    : prepare settings entry script watched = prepare settings entry script watched.host :=
  rfl

/-- A run comes out as it does when nobody watches, and leaves the same surroundings. -/
theorem run_watched [Peer σ] (setup : Setup) (entry : String) (script : Path)
    (watched : Watched η)
    : (run setup entry script watched).1 = (run setup entry script watched.host).1
        ∧ (run setup entry script watched).2.host
          = (run setup entry script watched.host).2 := by
  rw [run, run, prepare_watched]
  cases prepare setup.settings entry script watched.host with
  | error failure => exact ⟨rfl, rfl⟩
  | ok ready =>
      dsimp only [Host.start]
      rcases Host.start watched.host ready.command with ⟨_ | _, _⟩ <;> exact ⟨rfl, rfl⟩

-----------------------------------------------------------------------------------------
-- Phases
-----------------------------------------------------------------------------------------

variable {settings : Settings} {entry : String} {script : Path} {host : η}

/-- What the search for the artifact of an entry comes to in a directory at the root. -/
def searchIn (directory : Directory) (settings : Settings) (entry : String)
    : Artifact.Outcome :=
  Artifact.search (Text.octets (Artifact.fileName entry settings.extension))
    (Path.join settings.baseDir settings.targetDir) directory

/-- What comes of looking for the artifact of an entry: there is no directory to search, the search
comes to the end of it, or to a directory that cannot be listed, or to the artifact.
-/
inductive Locates (settings : Settings) (entry : String) (host : η)
    : Except Failure Path → Prop
  | rootMissing
    (nothing : Host.survey host (Path.join settings.baseDir settings.targetDir) = none)
    : Locates settings entry host (.error {
        kind := .targetNotFound
        message :=
          "no build output found at " ++ Path.text (Path.join settings.baseDir settings.targetDir)
      })
  | absent {directory : Directory}
    (seen : Host.survey host (Path.join settings.baseDir settings.targetDir) = some directory)
    (nowhere : searchIn directory settings entry = .absent)
    : Locates settings entry host (.error {
        kind := .entryNotFound
        message := "no entry '" ++ Artifact.fileName entry settings.extension
          ++ "' found under " ++ Path.text (Path.join settings.baseDir settings.targetDir)
      })
  | refused {directory : Directory} {path : Path} {fault : Fault}
    (seen : Host.survey host (Path.join settings.baseDir settings.targetDir) = some directory)
    (refuses : searchIn directory settings entry = .refused path fault)
    : Locates settings entry host (.error {
        kind := .search
        message := "failed to search " ++ Path.text path ++ ": " ++ fault.message
      })
  | found {directory : Directory} {artifact : Path}
    (seen : Host.survey host (Path.join settings.baseDir settings.targetDir) = some directory)
    (there : searchIn directory settings entry = .found artifact)
    : Locates settings entry host (.ok artifact)

/-- The search for the artifact comes to what is said of it, by cases on what is seen and found. -/
theorem locate_follows (settings : Settings) (entry : String) (host : η)
    : Locates settings entry host (locate settings entry host) := by
  simp only [locate, Artifact.locate, Settings.targetRoot]
  cases seen : Host.survey host (Path.join settings.baseDir settings.targetDir) with
  | none => exact .rootMissing seen
  | some directory =>
      dsimp only
      split
      · next path there => exact .found seen there
      · next path fault refuses => exact .refused seen refuses
      · next nowhere => exact .absent seen nowhere

/-- What is said of the search for the artifact is what it comes to, case by case. -/
theorem Locates.determines {result : Except Failure Path}
    (locates : Locates settings entry host result)
    : locate settings entry host = result := by
  simp only [locate, Artifact.locate, Settings.targetRoot]
  cases locates with
  | rootMissing nothing =>
      rw [nothing]
      rfl
  | absent seen came | refused seen came | found seen came =>
      rw [searchIn] at came
      rw [seen]
      dsimp only
      rw [came]
      rfl

/-- What comes of reading a script: it is not there, it cannot be read for another reason, it is no
text, or it is one.
-/
inductive ReadsText (settings : Settings) (script : Path) (host : η)
    : Except Failure String → Prop
  | missing {fault : Fault}
    (unread : Host.read host (Path.join settings.baseDir script) = .error fault)
    (notFound : Fault.Means 2 .notFound fault)
    : ReadsText settings script host (.error {
        kind := .scriptNotFound
        message := "no test file found"
        file := some (Path.text script)
      })
  | unreadable {fault : Fault}
    (unread : Host.read host (Path.join settings.baseDir script) = .error fault)
    (otherwise : ¬ Fault.Means 2 .notFound fault)
    : ReadsText settings script host (.error {
        kind := .scriptUnreadable
        message := fault.message
        file := some (Path.text script)
      })
  | malformed {octets : Octets}
    (content : Host.read host (Path.join settings.baseDir script) = .ok octets)
    (noText : ∀ text, octets ≠ Text.octets text)
    : ReadsText settings script host (.error {
        kind := .scriptUnreadable
        message := "stream did not contain valid UTF-8"
        file := some (Path.text script)
      })
  | text {text : String}
    (content : Host.read host (Path.join settings.baseDir script) = .ok (Text.octets text))
    : ReadsText settings script host (.ok text)

/-- Reading the script comes to what is said of it, by cases on what is read. -/
theorem readText_follows (settings : Settings) (script : Path) (host : η)
    : ReadsText settings script host (readText settings script host) := by
  rw [readText]
  cases content : Host.read host (Path.join settings.baseDir script) with
  | error fault =>
      dsimp only [Failure.ofScriptFault]
      split
      · next notFound => exact .missing content (Fault.isNotFound_iff.mp notFound)
      · next otherwise => exact .unreadable content (mt Fault.isNotFound_iff.mpr otherwise)
  | ok octets =>
      dsimp only
      split
      · next characters decoded =>
          refine .text (content.trans ?_)
          rw [Text.decode?_eq_some_iff.mp decoded, Text.octets, String.toList_ofList]
      · next undecoded => exact .malformed content (Text.decode?_eq_none_iff.mp undecoded)

/-- What is said of reading the script is what it comes to, case by case. -/
theorem ReadsText.determines {result : Except Failure String}
    (reads : ReadsText settings script host result)
    : readText settings script host = result := by
  rw [readText]
  cases reads with
  | missing unread notFound =>
      rw [unread]
      dsimp only
      rw [Failure.ofScriptFault, if_pos (Fault.isNotFound_iff.mpr notFound)]
  | unreadable unread otherwise =>
      rw [unread]
      dsimp only
      rw [Failure.ofScriptFault, if_neg (mt Fault.isNotFound_iff.mp otherwise)]
  | malformed content noText =>
      rw [content]
      dsimp only
      rw [Text.decode?_eq_none_iff.mpr noText]
      rfl
  | text content =>
      rw [content]
      dsimp only
      rw [Text.decode?_octets]
      dsimp only
      rw [String.ofList_toList]

/-- The command for an artifact: a launcher has its own arguments, the reference of the artifact
and then the arguments of the script; without a launcher the artifact has those of the script only.
-/
inductive Commands (settings : Settings) (canonical : Option Path) (artifact : Path)
    (arguments : List String) : Command → Prop
  | launched {launcher : String} (chosen : settings.launcher = some launcher)
    : Commands settings canonical artifact arguments {
        program := launcher
        arguments :=
          settings.launcherArgs
            ++ Artifact.reference (Path.join settings.baseDir settings.targetDir) artifact
              :: arguments
        directory := Path.join settings.baseDir settings.targetDir
      }
  | native (unchosen : settings.launcher = none)
    : Commands settings canonical artifact arguments {
        program := Path.text (canonical.getD artifact)
        arguments
        directory := Path.join settings.baseDir settings.targetDir
      }

/-- The command that is made is the one that is said, by cases on whether there is a launcher. -/
theorem commandFor_follows (settings : Settings) (canonical : Option Path) (artifact : Path)
    (arguments : List String)
    : Commands settings canonical artifact arguments
        (commandFor settings canonical artifact arguments) := by
  unfold commandFor
  split
  · next launcher chosen => exact .launched chosen
  · next unchosen => exact .native unchosen

/-- The command that is said is the one that is made. -/
theorem Commands.determines {canonical : Option Path} {artifact : Path}
    {arguments : List String} {command : Command}
    (commands : Commands settings canonical artifact arguments command)
    : commandFor settings canonical artifact arguments = command := by
  unfold commandFor
  cases commands with
  | launched chosen =>
      rw [chosen]
      rfl
  | native unchosen =>
      rw [unchosen]
      rfl

/-- What comes of the phases before the start of a program: the first that fails fails them all, and
a script without reserved lines is ready to be played.
-/
inductive Prepares (settings : Settings) (entry : String) (script : Path) (host : η)
    : Except Failure Ready → Prop
  | notLocated {failure : Failure}
    (locates : Locates settings entry host (.error failure))
    : Prepares settings entry script host (.error failure)
  | notRead {artifact : Path} {failure : Failure}
    (locates : Locates settings entry host (.ok artifact))
    (reads : ReadsText settings script host (.error failure))
    : Prepares settings entry script host (.error failure)
  | reserved {artifact : Path} {text : String} {number : Nat} {line : List Char}
    (locates : Locates settings entry host (.ok artifact))
    (reads : ReadsText settings script host (.ok text))
    (first : Script.FirstReserved (Script.lines text) number line)
    : Prepares settings entry script host (.error (Script.refusal script number line))
  | ready {artifact : Path} {text : String} {command : Command}
    (locates : Locates settings entry host (.ok artifact))
    (reads : ReadsText settings script host (.ok text))
    (unreserved : Script.Unreserved (Script.lines text))
    (commands
      : Commands settings (Host.canonical? host artifact) artifact
          (Script.arguments (Script.lines text)) command)
    : Prepares settings entry script host (.ok {
        scenario := {
          name := nameOf (Path.join settings.baseDir script)
          arguments := Script.arguments (Script.lines text)
          steps := Script.steps (Script.lines text)
        }
        command
      })

/-- A text without reserved lines is read as the scenario of its blocks and arguments. -/
theorem readScenario_eq_ok {text : String}
    (read : readText settings script host = .ok text)
    (unreserved : Script.Unreserved (Script.lines text))
    : readScenario settings script host
      = .ok {
        name := nameOf (Path.join settings.baseDir script)
        arguments := Script.arguments (Script.lines text)
        steps := Script.steps (Script.lines text)
      } := by
  rw [readScenario, read]
  dsimp only
  rw [Scenario.read_eq_blocks _ _ unreserved]
  rfl

/-- What is said of the phases before the start is what they come to, case by case. -/
theorem Prepares.determines {result : Except Failure Ready}
    (prepares : Prepares settings entry script host result)
    : prepare settings entry script host = result := by
  rw [prepare]
  cases prepares with
  | notLocated locates => rw [locates.determines]
  | notRead locates reads =>
      rw [locates.determines, readScenario, reads.determines]
  | reserved locates reads first =>
      have refused := (readScenario_eq_error_iff reads.determines).mpr ⟨_, _, first, rfl⟩
      rw [locates.determines, refused]
  | ready locates reads unreserved commands =>
      rw [locates.determines, readScenario_eq_ok reads.determines unreserved]
      dsimp only
      rw [commands.determines]

/-- By cases on what each phase comes to; where a text was read, on whether a line is reserved. -/
theorem prepare_follows (settings : Settings) (entry : String) (script : Path) (host : η)
    : Prepares settings entry script host (prepare settings entry script host) := by
  have follows {result : Except Failure Ready}
      (prepares : Prepares settings entry script host result)
      : Prepares settings entry script host (prepare settings entry script host) := by
    rwa [prepares.determines]
  have locates := locate_follows settings entry host
  have reads := readText_follows settings script host
  cases located : locate settings entry host with
  | error failure =>
      rw [located] at locates
      exact follows (.notLocated locates)
  | ok artifact =>
      rw [located] at locates
      cases read : readText settings script host with
      | error failure =>
          rw [read] at reads
          exact follows (.notRead locates reads)
      | ok text =>
          rw [read] at reads
          by_cases reserved : ∃ line ∈ Script.lines text, Script.isReserved line = true
          · obtain ⟨number, line, first⟩ := Script.exists_firstReserved reserved
            exact follows (.reserved locates reads first)
          · have unreserved : Script.Unreserved (Script.lines text) :=
              Script.unreserved_iff.mpr fun line member =>
                Bool.eq_false_iff.mpr fun is => reserved ⟨line, member, is⟩
            exact follows (.ready locates reads unreserved (commandFor_follows _ _ _ _))

/-- How a run comes out, and the commands it gives to start. -/
inductive Reports [Peer σ] (setup : Setup) (entry : String) (script : Path) (host : η)
    : Except Failure Report → List Command → Prop
  | notPrepared {failure : Failure}
    (prepares : Prepares setup.settings entry script host (.error failure))
    : Reports setup entry script host (.error failure) []
  | notStarted {ready : Ready} {fault : Fault} {after : η}
    (prepares : Prepares setup.settings entry script host (.ok ready))
    (fails : Host.start host ready.command = (.error fault, after))
    : Reports setup entry script host
        (.error {
          kind := .process
          message := "failed to start '" ++ ready.command.program ++ "': " ++ fault.message
        })
        [ready.command]
  | played {ready : Ready} {peer : σ} {after : η} {verdict : Verdict} {exchange : Exchange σ}
    (prepares : Prepares setup.settings entry script host (.ok ready))
    (starts : Host.start host ready.command = (.ok peer, after))
    (plays : play setup.limit ready.scenario ⟨{}, peer⟩ = (verdict, exchange))
    : Reports setup entry script host
        (.ok ⟨ready.scenario.name, script, verdict, exchange.session.log⟩)
        [ready.command]

variable [Peer σ] {setup : Setup}

/-- How a run is said to come out is how it does, and it starts what it is said to start, case by
case.
-/
theorem Reports.determines {outcome : Except Failure Report} {given : List Command}
    (reports : Reports setup entry script host outcome given)
    : (run setup entry script host).1 = outcome ∧ commands setup entry script host = given := by
  -- One run, the watched one, shows both how a run comes out and what it starts.
  have unwatched := (run_watched setup entry script ({ host } : Watched η)).1
  rw [← unwatched, commands, run, prepare_watched]
  cases reports with
  | notPrepared prepares =>
      rw [prepares.determines]
      exact ⟨rfl, rfl⟩
  | notStarted prepares fails =>
      rw [prepares.determines]
      dsimp only [Host.start]
      rw [fails]
      exact ⟨rfl, rfl⟩
  | played prepares starts plays =>
      rw [prepares.determines]
      dsimp only [Host.start]
      rw [starts]
      dsimp only
      rw [plays]
      exact ⟨rfl, rfl⟩

/-- A run comes out and starts programs as is said, by cases on its phases and on the start. -/
theorem run_follows (setup : Setup) (entry : String) (script : Path) (host : η)
    : Reports setup entry script host (run setup entry script host).1
        (commands setup entry script host) := by
  have follows {outcome : Except Failure Report} {given : List Command}
      (reports : Reports setup entry script host outcome given)
      : Reports setup entry script host (run setup entry script host).1
          (commands setup entry script host) := by
    rwa [reports.determines.1, reports.determines.2]
  have prepares := prepare_follows setup.settings entry script host
  cases prepared : prepare setup.settings entry script host with
  | error failure =>
      rw [prepared] at prepares
      exact follows (.notPrepared prepares)
  | ok ready =>
      rw [prepared] at prepares
      rcases started : Host.start host ready.command with ⟨fault | peer, after⟩
      · exact follows (.notStarted prepares started)
      · exact follows (.played prepares started rfl)

end Run

/-- A run reports the first phase that fails, and gives a program to start only where all phases
before that succeeded, and then once: how it comes out and what it starts is just what the phases
come to.
-/
theorem run_reports_first_failing_phase {η σ : Type} [Host η σ] [Peer σ] (setup : Setup)
    (entry : String) (script : Path) (host : η) (outcome : Except Failure Report)
    (commands : List Command)
    : ((Run.run setup entry script host).1 = outcome
          ∧ Run.commands setup entry script host = commands)
        ↔ Run.Reports setup entry script host outcome commands := by
  constructor
  · rintro ⟨rfl, rfl⟩
    exact Run.run_follows setup entry script host
  · exact Run.Reports.determines

/-- Surroundings with one directory, or none, and one file, in which no program can be started. -/
structure Idle where
  directory? : Option Directory
  file : Except Fault Octets

instance : Host Idle Canned where
  survey idle _ := idle.directory?
  read idle _ := idle.file
  canonical? _ _ := none
  start idle _ := (.error .noEntry, idle)

/-- Of all that is wrong the first counts: without a directory or without the artifact it does not
matter that there is no script, and without a script, or with a directive in it, that no program can
be started. Only where nothing else is wrong a start is tried.
-/
theorem run_reports_first_failing_phase_of_several
    : let setup : Setup := { settings := { launcherArgs := ["-ea"] } }
      let script := Path.ofText "t.lunit"
      let outcome (idle : Idle) :=
        ((Run.run setup "Main" script idle).1, Run.commands setup "Main" script idle)
      let inner : Directory := .listed (.leaf (Text.octets "Main.class") .none)
      let output : Directory := .listed (.folder (Text.octets "app") inner .none)
      outcome ⟨none, .error .noEntry⟩
          = (.error {
              kind := .targetNotFound
              message := "no build output found at ./target/classes"
            }, [])
        ∧ outcome ⟨some (.listed .none), .error .noEntry⟩
          = (.error {
              kind := .entryNotFound
              message := "no entry 'Main.class' found under ./target/classes"
            }, [])
        ∧ outcome ⟨some inner, .error .noEntry⟩
          = (.error {
              kind := .scriptNotFound
              message := "no test file found"
              file := some "t.lunit"
            }, [])
        ∧ outcome ⟨some output, .ok (Text.octets "$$ -x\n<r\n")⟩
          = (.error {
              kind := .unsupportedDirective
              message := "unsupported directive '<r'"
              file := some "t.lunit"
              line := some 2
            }, [])
        ∧ outcome ⟨some output, .ok (Text.octets "$$ -x\n> a\n$$ -y")⟩
          = (.error {
              kind := .process
              message := "failed to start 'java': No such file or directory (os error 2)"
            },
            [{
              program := "java"
              arguments := ["-ea", "app.Main", "-x", "-y"]
              directory := Path.ofText "./target/classes"
            }]) := by
  intro setup script outcome inner output
  have told {idle : Idle} {result : Except Failure Report} {given : List Command}
      (reports : Run.Reports setup "Main" script idle result given)
      : outcome idle = (result, given) := by
    obtain ⟨same, gave⟩ :=
      (run_reports_first_failing_phase setup "Main" script idle result given).mpr reports
    exact Prod.ext same gave
  have nothing
      : "no build output found at ./target/classes"
        = "no build output found at "
          ++ Path.text (Path.join setup.settings.baseDir setup.settings.targetDir) := by
    decide +kernel
  have nowhere
      : "no entry 'Main.class' found under ./target/classes"
        = "no entry '" ++ Artifact.fileName "Main" setup.settings.extension ++ "' found under "
          ++ Path.text (Path.join setup.settings.baseDir setup.settings.targetDir) := by
    decide +kernel
  have shallow {file : Except Fault Octets}
      : Run.Locates setup.settings "Main" (Idle.mk (some inner) file)
          (.ok (Path.ofText "./target/classes/Main.class")) :=
    .found rfl (by decide +kernel)
  have deep {file : Except Fault Octets}
      : Run.Locates setup.settings "Main" (Idle.mk (some output) file)
          (.ok (Path.ofText "./target/classes/app/Main.class")) :=
    .found rfl (by decide +kernel)
  have lines : Script.lines "$$ -x\n<r\n" = ["$$ -x".toList] ++ "<r".toList :: [[]] := by decide
  have first : Script.FirstReserved (Script.lines "$$ -x\n<r\n") 2 "<r".toList :=
    .intro lines (Script.unreserved_iff.mpr (by decide)) rfl
  have unreserved : Script.Unreserved (Script.lines "$$ -x\n> a\n$$ -y") :=
    Script.unreserved_iff.mpr (by decide)
  have named
      : ["-ea", "app.Main", "-x", "-y"]
        = setup.settings.launcherArgs
          ++ Artifact.reference (Path.join setup.settings.baseDir setup.settings.targetDir)
              (Path.ofText "./target/classes/app/Main.class")
            :: Script.arguments (Script.lines "$$ -x\n> a\n$$ -y") := by
    decide +kernel
  refine ⟨?_, ?_, ?_, ?_, ?_⟩
  · rw [nothing]
    exact told (.notPrepared (.notLocated (.rootMissing rfl)))
  · rw [nowhere]
    exact told (.notPrepared (.notLocated (.absent rfl (by decide +kernel))))
  · exact told (.notPrepared (.notRead shallow (.missing rfl .numbered)))
  · exact told (.notPrepared (.reserved deep (.text rfl) first))
  · rw [named]
    exact told (.notStarted (.ready deep (.text rfl) unreserved (.launched rfl)) rfl)

end Dialogue
