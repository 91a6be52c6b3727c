import Dialogue.Machine.Program

/-!
Looking up programs by name: a name without a slash is looked up in directories, one after the
other, and any other name is the path of the program itself.
-/

namespace Dialogue.Machine

/-- The directories in which programs are looked up if nothing else is said. -/
def searchPath : List Path :=
  ["/usr/local/bin", "/usr/bin", "/bin"].map Path.ofText

/-- Where a program of a name may be. -/
def candidates (directories : List Path) (program : Path) : List Path :=
  if program = [] then []
  else if program.contains Path.slash then [program]
  else directories.map fun directory => Path.join directory program

/-- The directories that a variable lists, with colons between them. An empty one stands for the
directory that one is in: what is joined to it stays as it is. -/
def directoriesOf (list : Octets) : List Path :=
  let colon : UInt8 := 0x3a
  let rec split : Octets → List Octets
    | [] => [[]]
    | b :: rest =>
      if b = colon then [] :: split rest
      else
        match split rest with
        | [] => [[b]]
        | piece :: others => (b :: piece) :: others
  split list

/-- The directories in which a program with these variables looks up others. -/
def searchPathOf (vars : Variables) : List Path :=
  match vars.lookup (Path.ofText "PATH") with
  | some list => directoriesOf list
  | none => searchPath

/-- Becomes the first program that can be loaded. A candidate that is not there is passed over; one
to which there is no access is reported only if there is no other. -/
def executeFirst (arguments : List Octets) (vars : Variables) (failed : Fault → Program)
    (refused : Fault) : List Path → Program
  | [] => failed refused
  | path :: rest =>
    .execute path arguments vars fun fault =>
      if fault = .noEntry ∨ fault = .notDirectory then
        executeFirst arguments vars failed refused rest
      else if fault = .noAccess then executeFirst arguments vars failed fault rest
      else failed fault

end Dialogue.Machine
