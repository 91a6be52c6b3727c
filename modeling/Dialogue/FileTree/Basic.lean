import Dialogue.Artifact.Search

/-!
Trees of files. A folder holds named nodes; a link names the path that it stands for. The place of
a node is the list of names that lead to it from the root of the tree.
-/

namespace Dialogue

/-- A file that stands for a device. -/
inductive Device
  /-- Empty to read, and writes vanish. -/
  | null
  /-- Zeros without end, and writes vanish. -/
  | zero
  /-- Zeros without end, and no room for writes. -/
  | full
  /-- The terminal, of which there is none. -/
  | terminal
  /-- Whatever the one who opens it has open under this number. -/
  | descriptor (number : Nat)
deriving Repr, DecidableEq

mutual

/-- A node of a tree of files. -/
inductive Node
  /-- A file with its content and the time of its last change; it may be one that can be run. -/
  | file (content : Octets) (runnable : Bool) (changed : Nat)
  /-- A link to a path. -/
  | link (target : Path)
  /-- A program that the machine itself provides, under this name. -/
  | builtin (name : String)
  /-- A device. -/
  | device (device : Device)
  /-- A folder. -/
  | folder (entries : Folder)

/-- The entries of a folder. -/
inductive Folder
  | none
  | entry (name : Octets) (node : Node) (rest : Folder)

end

namespace Folder

/-- The node of a name. -/
def get? (name : Octets) : Folder → Option Node
  | .none => Option.none
  | .entry first node rest => if first = name then some node else rest.get? name

/-- A folder with a node under a name, in the place of the one that was there. -/
def put (name : Octets) (node : Node) : Folder → Folder
  | .none => .entry name node .none
  | .entry first old rest =>
    if first = name then .entry name node rest else .entry first old (rest.put name node)

/-- The names in a folder. -/
def names : Folder → List Octets
  | .none => []
  | .entry name _ rest => name :: rest.names

/-- The node just put under a name is found there. -/
@[simp]
theorem get?_put (name : Octets) (node : Node) (entries : Folder)
    : (entries.put name node).get? name = some node := by
  match entries with
  | .none => simp [put, get?]
  | .entry first old rest =>
      by_cases h : first = name
      · simp [put, get?, h]
      · simpa [put, get?, h] using get?_put name node rest

end Folder

namespace Node

/-- The place of a node: the names that lead to it. -/
abbrev Place := List Octets

/-- The node at a place. -/
def at? : Node → Place → Option Node
  | node, [] => some node
  | .folder entries, name :: rest =>
    match entries.get? name with
    | some node => node.at? rest
    | none => none
  | _, _ :: _ => none

/-- A tree with another node at a place; a place that no folder leads to is left alone. -/
def putAt (new : Node) : Place → Node → Node
  | [], _ => new
  | [name], .folder entries => .folder (entries.put name new)
  | name :: rest, .folder entries =>
    match entries.get? name with
    | some node => .folder (entries.put name (putAt new rest node))
    | none => .folder entries
  | _, node => node

/-- The longest path that the system takes, with the octet that ends it. -/
def longestPath : Nat := 4096

/-- The longest name of an entry. -/
def longestName : Nat := 255

mutual

/-- What a search sees of a node under a path of the given length; nothing if it is no folder. A
folder whose path is too long cannot be listed. -/
def survey (length : Nat) : Node → Option Directory
  | .folder entries =>
    some (if longestPath ≤ length then .refused .nameTooLong
      else .listed (surveyEntries (length + 1) entries))
  | _ => none

/-- What a search sees of the entries of a folder, whose path with its slash has the given
length. -/
def surveyEntries (length : Nat) : Folder → Entries
  | .none => .none
  | .entry name node rest =>
    match survey (length + name.length) node with
    | some directory => .folder name directory (surveyEntries length rest)
    | none => .leaf name (surveyEntries length rest)

end

end Node

end Dialogue
