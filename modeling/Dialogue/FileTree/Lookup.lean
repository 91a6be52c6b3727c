import Dialogue.FileTree.Basic

/-!
Looking up paths in a tree of files. A path is followed name by name from the place where it is
looked up, or from the root; links are followed where they stand, and only so many of them.
-/

namespace Dialogue

/-- A tree of files with the place at which paths are looked up. -/
structure FileTree where
  root : Node := .folder .none
  current : Node.Place := []

namespace FileTree

open Node (Place)

/-- How many links one lookup may follow. -/
def mostLinks : Nat := 40

/-- The components of a path that are to be followed. A slash at the end asks for a folder, as a
dot there would. -/
def steps (path : Path) : List Component :=
  let trailing := path.getLast? = some Path.slash
  (if Path.isAbsolute path then [.root] else [])
    ++ (Path.pieces path).filterMap (fun piece =>
      if piece = [] then none
      else if piece = [Path.dot] then some .here
      else if piece = [Path.dot, Path.dot] then some .up
      else some (.name piece))
    ++ if trailing then [.here] else []

/-- Follows components from a place. Every component but a slash at the start needs a folder to
stand in. The flag says that a link at the end is followed too. -/
def follow (root : Node) (last : Bool) (links : Nat) (place : Place) :
    List Component → Except Fault Place
  | [] => .ok place
  | .root :: rest => follow root last links [] rest
  | step :: rest =>
    match root.at? place with
    | some (.folder entries) =>
      match step with
      | .root => follow root last links [] rest
      | .here => follow root last links place rest
      | .up => follow root last links place.dropLast rest
      | .name name =>
        if Node.longestName < name.length then .error .nameTooLong
        else
          match entries.get? name with
          | none => .error .noEntry
          -- A link is followed from the folder in which it stands.
          | some (.link target) =>
            if rest = [] && !last then .ok (place ++ [name])
            else
              match links with
              | 0 => .error .linkLoop
              | links + 1 => follow root last links place (steps target ++ rest)
          | some _ => follow root last links (place ++ [name]) rest
    | some _ => .error .notDirectory
    | none => .error .noEntry
termination_by components => (links, components.length)

/-- The place that a path leads to, the links on the way followed, and the one at the end if the
flag says so. -/
def locateWith (tree : FileTree) (last : Bool) (path : Path) : Except Fault Place :=
  if path = [] then .error .noEntry
  else if path.contains 0 then .error .zeroInPath
  else if Node.longestPath ≤ path.length then .error .nameTooLong
  else follow tree.root last mostLinks tree.current (steps path)

/-- The place that a path leads to, the links on the way and at the end followed. -/
def locate (tree : FileTree) (path : Path) : Except Fault Place := tree.locateWith true path

/-- The node that a path leads to. -/
def node? (tree : FileTree) (path : Path) : Except Fault Node :=
  match tree.locate path with
  | .error fault => .error fault
  | .ok place =>
    match tree.root.at? place with
    | some node => .ok node
    | none => .error .noEntry

/-- A place as an absolute path. -/
def absolute (place : Place) : Path :=
  if place = [] then [Path.slash] else place.flatMap (Path.slash :: ·)

/-- The absolute path without links that a path leads to, if it leads anywhere. -/
def canonical? (tree : FileTree) (path : Path) : Option Path :=
  (tree.locate path).toOption.map absolute

/-- What a search sees at a path; nothing if no folder is there. -/
def survey (tree : FileTree) (path : Path) : Option Directory :=
  match tree.node? path with
  | .error _ => none
  | .ok node =>
    let length := if path.getLast? = some Path.slash then path.length - 1 else path.length
    node.survey length

/-- The content of the file that a path leads to. -/
def read (tree : FileTree) (path : Path) : Except Fault Octets :=
  match tree.node? path with
  | .error fault => .error fault
  | .ok (.file content _ _) => .ok content
  | .ok (.builtin name) => .ok (Path.ofText name)
  | .ok (.device .null) => .ok []
  | .ok (.device _) => .error (.system 6)
  | .ok (.folder _) => .error .isDirectory
  | .ok (.link _) => .error .linkLoop

/-- A tree seen from a folder that a path leads to. -/
def enter (tree : FileTree) (path : Path) : Except Fault FileTree :=
  match tree.locate path with
  | .error fault => .error fault
  | .ok place =>
    match tree.root.at? place with
    | some (.folder _) => .ok { tree with current := place }
    | _ => .error .notDirectory

/-- The path of the folder in which a path's last name stands, and that name. -/
def splitLast (path : Path) : Path × Octets :=
  let trimmed := (path.reverse.dropWhile (· = Path.slash)).reverse
  let name := (trimmed.reverse.takeWhile (· ≠ Path.slash)).reverse
  let parent := trimmed.take (trimmed.length - name.length)
  (if parent = [] then [Path.dot] else parent, name)

/-- The place of something new at a path. Links that lead nowhere are followed, at most so many. -/
def placeOfNew (tree : FileTree) : Nat → Path → Except Fault Place
  | 0, _ => .error .linkLoop
  | links + 1, path => do
    let (parent, name) := splitLast path
    let place ← tree.locate parent
    match tree.root.at? place with
    | some (.folder entries) =>
      match entries.get? name with
      | some (.link target) => placeOfNew { tree with current := place } links target
      | _ => return place ++ [name]
    | _ => .error .notDirectory

/-- Puts a node at a path. A link that is there already is followed. -/
def put (tree : FileTree) (path : Path) (node : Node) : Except Fault FileTree := do
  let place ←
    match tree.locate path with
    | .ok place => pure place
    | .error fault => if fault.isNotFound then tree.placeOfNew mostLinks path else .error fault
  return { tree with root := Node.putAt node place tree.root }

/-- Makes the folders of a path that are not there, the outermost first. -/
def makeFolders (tree : FileTree) (path : Path) : FileTree :=
  let names := (Path.pieces path).filter (· ≠ [])
  let start : Path := if Path.isAbsolute path then [Path.slash] else []
  (names.foldl
    (fun (tree, here) name =>
      let here := Path.join here name
      match tree.locate here with
      | .ok _ => (tree, here)
      | .error _ => (((tree.put here (.folder .none)).toOption.getD tree), here))
    (tree, start)).1

/-- Puts a node at a path, and makes the folders that lead there. -/
def plant (tree : FileTree) (path : Path) (node : Node) : FileTree :=
  let tree := tree.makeFolders (splitLast path).1
  match node with
  | .folder _ => tree.makeFolders path
  | node => (tree.put path node).toOption.getD tree

end FileTree

end Dialogue
