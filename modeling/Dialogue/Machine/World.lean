import Dialogue.Machine.Process

/-!
A small machine: processes, pipes between them, a tree of files and a clock. One process is under
observation: its input comes from outside, and what is written to the two streams it was started
with is noted write by write. Time is counted in nanoseconds and passes only while the machine runs.
-/

namespace Dialogue.Machine

open Node (Place)

/-- An opening of a file: how far it has got in the file, and what it may do. -/
structure Opening where
  place : Place
  offset : Nat := 0
  mode : OpenMode

/-- A machine and what runs on it. -/
structure World where
  root : Node
  clock : Nat := 0
  /-- The processes, the next to take its turn first. -/
  processes : List Process := []
  pipes : List (Nat × Octets) := []
  openings : List (Nat × Opening) := []
  nextId : Nat := 1000
  /-- The pipe by which input comes from outside, while that end is open. -/
  input : Option Nat := none
  /-- The writes noted and not yet collected, the latest first. -/
  noted : List (Stream × Octets) := []

/-- How long a program takes to start. -/
def startTime : Nat := 1000000

/-- How long one request takes. -/
def requestTime : Nat := 1000

/-- How many octets wait in a pipe before writers have to wait too. -/
def pipeSize : Nat := 65536

namespace World

/-- Whether a running process has something open. -/
def isOpen (w : World) (e : Endpoint) : Bool :=
  w.processes.any fun p => p.descriptors.any (·.2 == e)

/-- Whether something may still be written to a pipe. -/
def hasWriter (w : World) (pipe : Nat) : Bool :=
  w.input == some pipe || w.isOpen (.writing pipe)

/-- The octets in a pipe. -/
def contents (w : World) (pipe : Nat) : Octets :=
  (w.pipes.lookup pipe).getD []

/-- A machine with other octets in a pipe. -/
def setContents (w : World) (pipe : Nat) (octets : Octets) : World :=
  { w with pipes := (pipe, octets) :: w.pipes.filter (·.1 != pipe) }

/-- A machine with an opening that has got somewhere else. -/
def setOpening (w : World) (number : Nat) (opening : Opening) : World :=
  { w with openings := (number, opening) :: w.openings.filter (·.1 != number) }

/-- The process of a number. -/
def process? (w : World) (id : Nat) : Option Process :=
  w.processes.find? (·.id == id)

/-- A machine with one process changed. -/
def mapProcess (w : World) (id : Nat) (f : Process → Process) : World :=
  { w with processes := w.processes.map fun p => if p.id == id then f p else p }

/-- The tree of files seen from a place. -/
def treeFrom (w : World) (place : Place) : FileTree := ⟨w.root, place⟩

/-- A path as a process sees it. -/
def fromProcess (w : World) (p : Process) : FileTree := w.treeFrom p.directory

/-- A new pipe. -/
def newPipe (w : World) : Nat × World :=
  (w.nextId, { w with nextId := w.nextId + 1, pipes := (w.nextId, []) :: w.pipes })

/-- A new opening of the file at a place. -/
def newOpening (w : World) (place : Place) (mode : OpenMode) : Endpoint × World :=
  (.opened w.nextId,
    { w with
      nextId := w.nextId + 1
      openings := (w.nextId, { place, mode }) :: w.openings })

/-- What is in the file at a place. -/
def fileAt (w : World) (place : Place) : Octets :=
  match w.root.at? place with
  | some (.file content _ _) => content
  | some (.builtin name) => Path.ofText name
  | _ => []

/-- The fault of a descriptor that is not open, or not for this. -/
def badDescriptor : Fault := .system 9

/-- The fault of a file that is there already. -/
def alreadyThere : Fault := .system 17

/-- The fault of a device that is not there. -/
def noDevice : Fault := .system 6

/-- The fault of a device without room. -/
def noRoom : Fault := .system 28

/-- What comes of a read: octets, a fault, or nothing yet. -/
def readFrom (w : World) (e : Option Endpoint) (count : Nat) :
    Option (Except Fault Octets × World) :=
  match e with
  | some (.reading pipe) =>
    let octets := w.contents pipe
    -- An empty pipe has ended only if nobody can write to it any more.
    if octets = [] then if w.hasWriter pipe then none else some (.ok [], w)
    else some (.ok (octets.take count), w.setContents pipe (octets.drop count))
  | some (.opened number) =>
    match w.openings.lookup number with
    | none => some (.error badDescriptor, w)
    | some opening =>
      if opening.mode = .read ∨ opening.mode = .update then
        let octets := ((w.fileAt opening.place).drop opening.offset).take count
        let opening := { opening with offset := opening.offset + octets.length }
        some (.ok octets, w.setOpening number opening)
      else some (.error badDescriptor, w)
  | some (.folder _) => some (.error .isDirectory, w)
  | some (.device .zero) => some (.ok (List.replicate count 0), w)
  | some (.device .full) => some (.ok (List.replicate count 0), w)
  | some (.device _) => some (.ok [], w)
  | _ => some (.error badDescriptor, w)

/-- What comes of a write: it is taken, its reader is gone, there is a fault, or it must wait. -/
inductive Write
  | taken (w : World)
  | readerGone
  | failed (fault : Fault)
  | waits

/-- Octets with others in the place of those from an offset on; what is missing before them is
filled with zeros. -/
def overwrite (content : Octets) (offset : Nat) (octets : Octets) : Octets :=
  content.take offset ++ List.replicate (offset - content.length) 0 ++ octets
    ++ content.drop (offset + octets.length)

/-- Writes octets through an opening. -/
def writeOpened (w : World) (number : Nat) (octets : Octets) : Write :=
  match w.openings.lookup number with
  | none => .failed badDescriptor
  | some opening =>
    if opening.mode = .read then .failed badDescriptor
    else
      match w.root.at? opening.place with
      | some (.file content runnable _) =>
        let offset := if opening.mode = .append then content.length else opening.offset
        let node := Node.file (overwrite content offset octets) runnable w.clock
        let w := w.setOpening number { opening with offset := offset + octets.length }
        .taken { w with root := Node.putAt node opening.place w.root }
      | _ => .taken w

/-- Writes octets. -/
def writeTo (w : World) (e : Option Endpoint) (octets : Octets) : Write :=
  match e with
  | some (.writing pipe) =>
    if !w.isOpen (.reading pipe) then .readerGone
    else if pipeSize ≤ (w.contents pipe).length then .waits
    else .taken (w.setContents pipe (w.contents pipe ++ octets))
  | some (.observed stream) =>
    .taken (if octets = [] then w else { w with noted := (stream, octets) :: w.noted })
  | some (.opened number) => w.writeOpened number octets
  | some (.device .full) => .failed noRoom
  | some (.device _) => .taken w
  | _ => .failed badDescriptor

/-- Makes the file at a path, or empties the one that is there; it stays runnable if it was. -/
def putFile (w : World) (tree : FileTree) (path : Path) (content : Octets) (runnable : Bool) :
    Except Fault (Place × World) :=
  match tree.put path (.file content runnable w.clock) with
  | .error fault => .error fault
  | .ok tree =>
    match tree.locate path with
    | .error fault => .error fault
    | .ok place => .ok (place, { w with root := tree.root })

/-- Opens a file for a process: what its descriptor will stand for. -/
def openFile (w : World) (p : Process) (path : Path) (mode : OpenMode) :
    Except Fault (Endpoint × World) :=
  let tree := w.fromProcess p
  let opened (place : Place) : Except Fault (Endpoint × World) := .ok (w.newOpening place mode)
  let emptied (runnable : Bool) : Except Fault (Endpoint × World) :=
    match w.putFile tree path [] runnable with
    | .error fault => .error fault
    | .ok (place, w) => .ok (w.newOpening place mode)
  match tree.node? path, tree.locate path with
  | .ok (.device .terminal), _ => .error noDevice
  | .ok (.device (.descriptor number)), _ =>
    match p.endpoint? number with
    | none => .error .noEntry
    | some (.opened number) =>
      match w.openings.lookup number with
      | some opening => .ok (w.newOpening opening.place mode)
      | none => .error .noEntry
    | some e => .ok (e, w)
  | .ok (.device device), _ => .ok (.device device, w)
  | .ok (.folder _), .ok place =>
    if mode = .read then .ok (.folder place, w) else .error .isDirectory
  | .ok (.file _ runnable _), .ok place =>
    match mode with
    | .write => emptied runnable
    | .create => .error alreadyThere
    | _ => opened place
  | .ok _, .ok place =>
    if mode = .read then opened place else .error (.system 26)
  | .error fault, _ =>
    if mode = .read then .error fault
    else if mode = .create && (tree.locateWith false path).toOption.isSome then
      .error alreadyThere
    else if path.getLast? = some Path.slash then
      -- Only a folder could have such a name, if there is a folder for it.
      match tree.enter (FileTree.splitLast path).1 with
      | .ok _ => .error .isDirectory
      | .error fault => .error fault
    else emptied false
  | _, .error fault => .error fault

/-- Puts a new file in the place of what is at a path for a process, be it a link. The file can be
run if the old one could. -/
def replaceFile (w : World) (p : Process) (path : Path) (content : Octets) :
    Except Fault World := do
  let tree := w.fromProcess p
  let runnable :=
    match tree.node? path with
    | .ok (.file _ runnable _) => runnable
    | _ => false
  let place ← tree.locateWith false path
  return { w with root := Node.putAt (.file content runnable w.clock) place tree.root }

/-- What is known of a node. -/
def kindOf (place : Place) : Node → NodeKind
  | .folder _ => { sort := .folder, isRunnable := true, size := 4096, place }
  | .file content runnable changed =>
    { sort := .file, isRunnable := runnable, size := content.length, changed, place }
  | .link target => { sort := .link, isRunnable := true, size := target.length, place }
  | .builtin _ => { sort := .file, isRunnable := true, size := 1, place }
  | .device _ => { sort := .device, isRunnable := false, size := 0, place }

/-- What a descriptor of a process stands for. -/
def describe (w : World) (p : Process) (descriptor : Nat) : Except Fault NodeKind :=
  match p.endpoint? descriptor with
  | none => .error badDescriptor
  | some (.opened number) =>
    match w.openings.lookup number with
    | none => .error badDescriptor
    | some opening =>
      match w.root.at? opening.place with
      | some node => .ok (kindOf opening.place node)
      | none => .error .noEntry
  | some (.folder place) =>
    .ok { sort := .folder, isRunnable := true, size := 4096, place }
  | some (.device _) => .ok { sort := .device, isRunnable := false, size := 0 }
  | some _ => .ok { sort := .pipe, isRunnable := false, size := 0 }

/-- What is at a path, for one who asks. -/
def inspect (w : World) (p : Process) (path : Path) (last : Bool) : Except Fault NodeKind :=
  match (w.fromProcess p).locateWith last path with
  | .error fault => .error fault
  | .ok place =>
    match w.root.at? place with
    | none => .error .noEntry
    | some (.device (.descriptor number)) =>
      (w.describe p number).mapError fun _ => .noEntry
    | some node => .ok (kindOf place node)

/-- The names in the folder at a path. -/
def names (tree : FileTree) (path : Path) : Except Fault (List Octets) :=
  match tree.node? path with
  | .error fault => .error fault
  | .ok (.folder entries) => .ok entries.names
  | .ok _ => .error .notDirectory

/-- Sends a signal to a process, if it runs. The signal zero only asks whether it is there. -/
def signal (w : World) (id signal : Nat) : Except Fault World :=
  match w.process? id with
  | none => .error (.system 3)
  | some p =>
    if signal = 0 ∨ !p.isRunning then .ok w else .ok (w.mapProcess id (·.receive signal))

end World

end Dialogue.Machine
