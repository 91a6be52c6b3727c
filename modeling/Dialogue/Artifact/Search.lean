import Dialogue.Fault
import Dialogue.Path.Basic

/-!
The search for an artifact, by the file under which an entry is stored. What a search sees is a tree
of directories, some of which may refuse to be listed. A directory is looked through before the
directories in it, and these are searched in the order of their names; the first find or refusal
decides. What is found has a reference by which a launcher knows it.
-/

namespace Dialogue

mutual

/-- A directory as a search sees it. -/
inductive Directory
  /-- It cannot be listed. -/
  | refused (fault : Fault)
  /-- It has these entries. -/
  | listed (entries : Entries)

/-- The entries of a directory, in any order. -/
inductive Entries
  | none
  /-- An entry that is no directory: a file, a link to anything, or something else. -/
  | leaf (name : Octets) (rest : Entries)
  /-- A directory. -/
  | folder (name : Octets) (directory : Directory) (rest : Entries)

end

/-- Whether there is an entry of this name that is no directory. -/
def Entries.hasLeaf (file : Octets) : Entries → Bool
  | .none => false
  | .leaf name rest => name == file || rest.hasLeaf file
  | .folder _ _ rest => rest.hasLeaf file

namespace Artifact

/-- What a search comes to. -/
inductive Outcome
  /-- The artifact is at this path. -/
  | found (path : Path)
  /-- This directory could not be listed. -/
  | refused (path : Path) (fault : Fault)
  /-- There is no such file. -/
  | absent
deriving Repr, DecidableEq

/-- Whether a search has come to something. -/
def Outcome.decides : Outcome → Bool
  | .absent => false
  | _ => true

/-- The outcome for directories in the order of their names. -/
def firstOutcome (outcomes : List (Octets × Outcome)) : Outcome :=
  let sorted := outcomes.mergeSort fun first second => !Path.before second.1 first.1
  match sorted.find? (·.2.decides) with
  | some (_, outcome) => outcome
  | none => .absent

mutual

/-- Searches a directory at a path. -/
def search (file : Octets) (path : Path) : Directory → Outcome
  | .refused fault => .refused path fault
  | .listed entries =>
    if entries.hasLeaf file then .found (Path.join path file)
    else firstOutcome (searchFolders file path entries)

/-- Searches the directories among entries, each under its name. -/
def searchFolders (file : Octets) (path : Path) : Entries → List (Octets × Outcome)
  | .none => []
  | .leaf _ rest => searchFolders file path rest
  | .folder name directory rest =>
    (name, search file (Path.join path name) directory) :: searchFolders file path rest

end

/-- The file name of an entry: its name with the extension, which is not put there twice. Dots
before the extension do not count, and an empty extension adds nothing. -/
def fileName (name extension : String) : String :=
  let extension := extension.toList.dropWhile (· = '.')
  -- The name itself may be nothing but the extension and its dot.
  if extension = [] ∨ ('.' :: extension).isSuffixOf name.toList then name
  else String.ofList (name.toList ++ '.' :: extension)

/-- Why an artifact could not be located. -/
inductive LocateError
  /-- There is no directory to search. -/
  | rootMissing (root : Path)
  /-- No file of this name is there. -/
  | notFound (root : Path) (file : String)
  /-- A directory could not be listed. -/
  | refused (path : Path) (fault : Fault)
deriving Repr, DecidableEq

/-- The text of a failed search. -/
def LocateError.message : LocateError → String
  | .rootMissing root => s!"no build output found at {Path.text root}"
  | .notFound root file => s!"no entry '{file}' found under {Path.text root}"
  | .refused path fault => s!"failed to search {Path.text path}: {fault.message}"

/-- Locates the artifact of an entry under a root, which is no directory at all if there is none
to see. -/
def locate (root : Path) (directory : Option Directory) (name extension : String) :
    Except LocateError Path :=
  match directory with
  | none => .error (.rootMissing root)
  | some directory =>
    let file := fileName name extension
    match search (Text.octets file) root directory with
    | .found path => .ok path
    | .refused path fault => .error (.refused path fault)
    | .absent => .error (.notFound root file)

/-- A file name without its last dot and what follows it; a dot at its very start does not
count. -/
def stem (name : Octets) : Octets :=
  let before := (name.reverse.dropWhile (· ≠ Path.dot)).drop 1
  if before = [] then name else before.reverse

/-- The components of a path relative to a root, if they begin with those of the root, and all
components otherwise. -/
def relative (root path : Path) : List Component :=
  let outer := Path.components root
  let all := Path.components path
  if outer.isPrefixOf all then all.drop outer.length else all

/-- The names among components, the last without its extension. Where that leaves a name of dots
only, it names a directory and not an artifact. -/
def referenceNames : List Component → List Octets
  | [] => []
  | [.name octets] => (Path.componentOfPiece? (stem octets)).toList.filterMap fun
    | .name octets => some octets
    | _ => none
  | .name octets :: rest => octets :: referenceNames rest
  | _ :: rest => referenceNames rest

/-- The reference of an artifact: its place under the root, the names joined by dots, without the
extension. -/
def reference (root path : Path) : String :=
  ".".intercalate ((referenceNames (relative root path)).map Text.shown)

end Artifact

end Dialogue
