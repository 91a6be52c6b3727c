import Dialogue.LineEditor.Start
import Dialogue.Machine.Observed
import Dialogue.Run.Basic
import Dialogue.Settings
import Dialogue.Shell.Interpreter
import Dialogue.Tool.Simple

/-!
The standard machine: the programs that are there on every machine, where they are, and a machine
on which runs are made.
-/

namespace Dialogue.Machine

/-- The names under which the shell is started. -/
def shellNames : List String := ["sh", "dash", "bash"]

/-- The programs of the standard machine besides the shell. -/
def toolPrograms : List (String × (Chars → List Chars → Variables → Program)) :=
  ("sed", LineEditor.sed) :: Tool.simplePrograms

/-- The programs of the standard machine. -/
def standardCatalogue : Catalogue := fun name =>
  if shellNames.contains name then some Shell.shell
  else
    (toolPrograms.lookup name).map fun program => fun arguments vars =>
      let words := arguments.map Text.ofOctets
      program (words.headD name.toList) (words.drop 1) vars

/-- The names of all these programs. -/
def programNames : List String := shellNames ++ toolPrograms.map (·.1)

/-- The devices of the standard machine, by their names. -/
def devices : List (String × Device) :=
  [("null", .null), ("zero", .zero), ("full", .full), ("tty", .terminal),
    ("stdin", .descriptor 0), ("stdout", .descriptor 1), ("stderr", .descriptor 2)]

/-- How many descriptors have names. -/
def namedDescriptors : Nat := 20

/-- The files of the standard machine: its programs under `/usr/bin`, to which `/bin` is a link, and
its devices. -/
def standardTree : FileTree :=
  let programs := programNames.foldl
    (fun (tree : FileTree) name => tree.plant (Path.ofText ("/usr/bin/" ++ name)) (.builtin name))
    {}
  let linked := programs.plant (Path.ofText "/bin") (.link (Path.ofText "usr/bin"))
  let withDevices := devices.foldl
    (fun (tree : FileTree) (name, device) =>
      tree.plant (Path.ofText ("/dev/" ++ name)) (.device device))
    linked
  let withDescriptors := (List.range namedDescriptors).foldl
    (fun (tree : FileTree) n =>
      tree.plant (Path.ofText s!"/dev/fd/{n}") (.device (.descriptor n)))
    withDevices
  (withDescriptors.plant (Path.ofText "/tmp") (.folder .none)).plant (Path.ofText "/root")
    (.folder .none)

/-- The variables that programs of the standard machine are started with. -/
def standardVariables : Variables :=
  [(Path.ofText "PATH", Path.ofText "/usr/local/bin:/usr/bin:/bin"),
    (Path.ofText "HOME", Path.ofText "/root")]

/-- A machine on which runs are made. -/
structure Station where
  tree : FileTree := standardTree
  catalogue : Catalogue := standardCatalogue
  vars : Variables := standardVariables

/-- A station with variables of an environment. -/
def Station.withEnvironment (station : Station) (environment : Environment) : Station :=
  let vars := environment.foldl
    (fun vars (name, value) => Variables.put (Text.octets name) (Text.octets value) vars)
    station.vars
  { station with vars }

instance : Host Station (Child Observed) where
  survey station path := station.tree.survey path
  read station path := station.tree.read path
  canonical? station path := station.tree.canonical? path
  start station command :=
    (Observed.start station.catalogue station.tree station.vars
      (Text.octets command.program) (command.arguments.map Text.octets) command.directory, station)

end Dialogue.Machine
