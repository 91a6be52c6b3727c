import Dialogue.LineEditor.Reading
import Dialogue.LineEditor.Substitution
import Dialogue.Tool.Stream

/-!
The line editor at work: what it knows, what it reads and what it writes. Its output is gathered
before it is written, unless it is told to write at once. A file that is edited in place is written
when all of it has been read.
-/

namespace Dialogue.LineEditor

open Tool (say complain)

/-- How the line editor is used. -/
structure Use where
  /-- The name under which it was started. -/
  name : Chars
  vars : Variables := []
  /-- It prints only what it is told to. -/
  isQuiet : Bool := false
  /-- Lines are counted anew in each file. -/
  isSeparate : Bool := false
  /-- It reads no more than it needs and writes at once. -/
  isUnbuffered : Bool := false
  /-- What ends a line. -/
  delimiter : Char := '\n'
  /-- Files are edited in place, and what they were before is kept under another name. -/
  inPlace : Option Chars := none
  /-- Nothing is done that not every line editor does. -/
  isStrict : Bool := false
  /-- How wide lines are in which everything can be seen. -/
  width : Nat := 70

/-- A line, and whether its end was there. -/
structure Line where
  text : Chars := []
  isEnded : Bool := true

/-- Something that is read. -/
structure Input where
  descriptor : Nat
  name : Chars
  unread : Chars := []
  /-- How many octets have been read. -/
  size : Nat := 0
  /-- Nothing more will come. -/
  isAtEnd : Bool := false

/-- A file that is written. -/
structure TargetFile where
  descriptor : Nat
  /-- What is not yet written. -/
  unwritten : Chars := []
  /-- The last line in it has no end. -/
  lacksEnd : Bool := false

/-- What is printed after a line. -/
inductive Added
  | text (text : Chars)
  | file (name : Chars)
  | line (line : Line)

/-- Whether one is in the range of a command. -/
inductive Range
  | outside
  /-- Up to a line of this number. -/
  | upTo (line : Nat)
  /-- Up to a line that the address names. -/
  | upToAddress
  /-- It was left and does not begin again. -/
  | past
deriving Repr, DecidableEq

/-- What the line editor knows. -/
structure Editor where
  use : Use
  commands : Array Command
  /-- The script, for complaints. -/
  script : Draft
  ranges : Array Range
  files : List Chars
  input : Option Input := none
  /-- The name of what is read now or was read last. -/
  fileName : Chars := ['-']
  /-- The next file begins anew. -/
  beginsAnew : Bool := false
  number : Nat := 0
  line : Line := {}
  held : Line := {}
  /-- The line before it was last replaced in or run as a command had its end. -/
  wasEnded : Bool := true
  /-- Something has been replaced since the last line was read. -/
  replaced : Bool := false
  /-- What is printed after the line, the last one first. -/
  added : List Added := []
  /-- What is not yet written. -/
  unwritten : Chars := []
  /-- What was written to the file that is edited in place, piece by piece, the last one first. -/
  edited : List Chars := []
  /-- The last line printed has no end. -/
  lacksEnd : Bool := false
  /-- The same for what commands write to the output. -/
  outputLacksEnd : Bool := false
  /-- The same for what they write beside the complaints. -/
  complaintsLackEnd : Bool := false
  targets : List (Chars × TargetFile) := []
  readers : List (Chars × Input) := []
  /-- The expression that was used last. -/
  lastMatcher : Option Matcher := none
  /-- What it will end with. -/
  code : Nat := 0

/-- Something that the line editor does. It is given what it knows and what is done after it. -/
def Work (α : Type) : Type := Editor → (α → Editor → Program) → Program

namespace Work

instance : Monad Work where
  pure a := fun e next => next a e
  bind first after := fun e next => first e fun a e => after a e next

/-- What the line editor knows. -/
def editor : Work Editor := fun e next => next e e

/-- Changes what the line editor knows. -/
def modify (f : Editor → Editor) : Work Unit := fun e next => next () (f e)

/-- Asks the system for something. -/
def ask {α : Type} (request : (α → Program) → Program) : Work α :=
  fun e next => request fun a => next a e

/-- Ends at once. -/
def stop {α : Type} (program : Program) : Work α := fun _ _ => program

/-- Complains, and goes on. -/
def warn (text : Chars) : Work Unit := do
  let name := (← editor).use.name
  ask (complain name text)

/-- Writes some octets of the output, or ends with a complaint. -/
def writeOut (text : Chars) : Work Unit := do
  if !text.isEmpty then
    match ← ask (Program.write 1 (Text.toOctets text)) with
    | .ok _ => return
    | .error fault => do
      warn (Text.spell s!"couldn't flush stdout: {fault.systemText}")
      stop (.exit 4)

/-- Writes what is not yet written: all of it, or as much as is written at once. -/
def flush (all : Bool) : Work Unit := do
  let text := (← editor).unwritten
  let size := if all then text.length else text.length - text.length % Tool.bufferSize
  if 0 < size then
    modify fun e => { e with unwritten := text.drop size }
    writeOut (text.take size)

/-- Lets others read what was read of the input without need. -/
def giveBack : Work Unit := do
  if let some input := (← editor).input then
    if input.descriptor = 0 then ask (Program.goBack 0 input.unread.length)

/-- Writes all that is not yet written, and ends with a code. -/
def leave {α : Type} (code : Nat) : Work α := do
  giveBack
  flush true
  (← editor).targets.reverse.forM fun (_, file) =>
    unless file.unwritten.isEmpty do ask (say file.descriptor file.unwritten)
  stop (.exit code)

/-- Ends with a code, after a complaint. -/
def fail {α : Type} (code : Nat) (text : Chars) : Work α := do
  warn text
  leave code

/-- Fails because of the script. -/
def failScript {α : Type} (fault : ScriptFault) : Work α := do
  fail 1 ((← editor).script.complaint fault)

/-- Prints to the output, as soon as there is enough. -/
def gatherOut (text : Chars) : Work Unit := do
  modify fun e => { e with unwritten := e.unwritten ++ text }
  if Tool.bufferSize ≤ (← editor).unwritten.length then flush false

/-- Prints to the output. -/
def printOut (text : Chars) : Work Unit := do
  gatherOut text
  if (← editor).use.isUnbuffered then flush true

/-- Prints to the output, or to the file that is edited in place. -/
def printText (text : Chars) : Work Unit := do
  if (← editor).use.inPlace.isSome then modify fun e => { e with edited := text :: e.edited }
  else printOut text

/-- The same, but it may be written later. -/
def printLater (text : Chars) : Work Unit := do
  if (← editor).use.inPlace.isSome then printText text else gatherOut text

/-- Ends a line that was printed without its end. -/
def endPrinted : Work Unit := do
  let e ← editor
  if e.lacksEnd then
    modify fun e => { e with lacksEnd := false }
    printText [e.use.delimiter]

/-- Prints a line, with its end if that was there. -/
def printLine (line : Line) : Work Unit := do
  endPrinted
  let delimiter := (← editor).use.delimiter
  printText (if line.isEnded then line.text ++ [delimiter] else line.text)
  modify fun e => { e with lacksEnd := !line.isEnded }

/-- A line as a command writes it somewhere, after a line there that may lack its end. -/
def written (lacksEnd : Bool) (line : Line) : Work Chars := do
  let delimiter := (← editor).use.delimiter
  let before := if lacksEnd then [delimiter] else []
  let after := if line.isEnded then [delimiter] else []
  return before ++ line.text ++ after

/-- Writes a line somewhere. -/
def writeTo (target : Target) (line : Line) : Work Unit := do
  let e ← editor
  match target with
  | .output => do
    modify fun e => { e with outputLacksEnd := !line.isEnded }
    printOut (← written e.outputLacksEnd line)
  | .complaints => do
    modify fun e => { e with complaintsLackEnd := !line.isEnded }
    ask (say 2 (← written e.complaintsLackEnd line))
  | .file name =>
    if let some file := e.targets.lookup name then
      let text := file.unwritten ++ (← written file.lacksEnd line)
      let size :=
        if e.use.isUnbuffered then text.length else text.length - text.length % Tool.bufferSize
      let file := { file with unwritten := text.drop size, lacksEnd := !line.isEnded }
      modify fun e =>
        { e with
          targets := e.targets.map fun (other, known) =>
            (other, if other == name then file else known) }
      unless size = 0 do ask (say file.descriptor (text.take size))

/-- How much is read at once. -/
def blockSize : Work Nat := do
  return if (← editor).use.isUnbuffered then 1 else Tool.bufferSize

/-- Reads some more, unless the end is there; a fault is answered. -/
def readMore (input : Input) : Work (Except Fault Input) := do
  let count ← blockSize
  match ← ask (Program.read input.descriptor count) with
  | .ok [] => return .ok { input with isAtEnd := true }
  | .ok octets =>
    let unread := input.unread ++ Text.ofOctets octets
    return .ok { input with unread, size := input.size + octets.length }
  | .error fault => return .error fault

/-- Reads some more of what is edited, or fails. -/
def readMoreOf (input : Input) : Work Input := do
  match ← readMore input with
  | .ok input => return input
  | .error fault =>
    let name := if input.descriptor = 0 then Text.spell "stdin" else input.name
    fail 4 (Text.spell "read error on " ++ name ++ Text.spell s!": {fault.systemText}")

/-- Reads until a whole line is there, or the end. The first argument bounds the reads. -/
def readLineOf : Nat → Input → Work Input
  | 0, input => pure input
  | reads + 1, input => do
    let delimiter := (← editor).use.delimiter
    if input.isAtEnd || input.unread.contains delimiter then return input
    else readLineOf reads (← readMoreOf input)

/-- The first line of what has been read, if there is one, and what is left. -/
def splitLine (delimiter : Char) (input : Input) : Option Line × Input :=
  if input.unread.isEmpty then (none, input)
  else
    let text := input.unread.takeWhile (· ≠ delimiter)
    match input.unread.drop text.length with
    | [] => (some { text, isEnded := false }, { input with unread := [] })
    | _ :: unread => (some { text }, { input with unread })

/-- Makes a file anew with a content. -/
def putFile (path : Chars) (content : Chars) : Work Unit := do
  match ← ask (Program.openFile (Text.toOctets path) .write) with
  | .error fault =>
    fail 4 (Text.spell "couldn't open file " ++ path ++ Text.spell s!": {fault.systemText}")
  | .ok descriptor => do
    let _ ← ask (Program.write descriptor (Text.toOctets content))
    ask (Program.close descriptor)

/-- The name under which the content of a file is kept: stars stand for its own name. -/
def keptName (suffix name : Chars) : Chars :=
  let base := (name.reverse.takeWhile (· ≠ '/')).reverse
  let folder := name.take (name.length - base.length)
  let kept :=
    if suffix.contains '*' then suffix.flatMap fun c => if c = '*' then base else [c]
    else base ++ suffix
  if kept.contains '/' then kept else folder ++ kept

/-- All that is in a file. -/
def contentOf (path : Chars) : Work Chars := do
  match ← ask (Program.openFile (Text.toOctets path) .read) with
  | .error _ => return []
  | .ok descriptor => do
    let octets ← ask (Tool.readAll descriptor Tool.mostReads [])
    ask (Program.close descriptor)
    return Text.ofOctets (octets.toOption.getD [])

/-- Puts an end to the reading of a file. One that is edited in place is written. -/
def closeInput : Work Unit := do
  giveBack
  let e ← editor
  if let some input := e.input then
    modify fun e => { e with input := none }
    if input.descriptor ≠ 0 then ask (Program.close input.descriptor)
    if let some suffix := e.use.inPlace then
      let content := e.edited.reverse.flatten
      modify fun e => { e with edited := [], lacksEnd := false }
      if !suffix.isEmpty then putFile (keptName suffix input.name) (← contentOf input.name)
      let _ ← ask (Program.replace (Text.toOctets input.name) (Text.toOctets content))

/-- Begins to read a file, if that can be done. -/
def openInput (name : Chars) : Work Unit := do
  let e ← editor
  if name = ['-'] && e.use.inPlace.isNone then
    let known := e.readers.find? fun (_, reader) => reader.descriptor == 0
    let input : Input :=
      match known with
      | some (_, reader) => { reader with name }
      | none => { descriptor := 0, name }
    modify fun e => { e with input := some input, fileName := name }
  else
    match ← ask (Program.openFile (Text.toOctets name) .read) with
    | .error fault => do
      warn (Text.spell "can't read " ++ name ++ Text.spell s!": {fault.systemText}")
      modify fun e => { e with code := 2, fileName := name }
    | .ok descriptor => do
      if e.use.inPlace.isSome then
        let kind ← ask (Program.describe descriptor)
        let isFile := kind.toOption.any (·.sort == .file)
        if !isFile then
          fail 4 (Text.spell "couldn't edit " ++ name ++ Text.spell ": not a regular file")
      modify fun e => { e with input := some { descriptor, name }, fileName := name }

/-- Whether there is something in one of the files that follow; that one is then read. -/
def nextHasMore : Nat → Work Bool
  | 0 => pure false
  | bound + 1 => do
    closeInput
    match (← editor).files with
    | [] => return false
    | name :: files => do
      modify fun e => { e with files }
      openInput name
      match (← editor).input with
      | none => nextHasMore bound
      | some input => do
        let input ← readMoreOf input
        modify fun e => { e with input := some input }
        if input.isAtEnd then nextHasMore bound else return true

/-- Whether the present line is the last one. What follows is looked at only as far as needed. -/
def isAtLast : Work Bool := do
  let e ← editor
  let further : Work Bool := do
    if e.use.isSeparate then return true
    else return !(← nextHasMore (e.files.length + 1))
  match e.input with
  | none => further
  | some input => do
    if !input.unread.isEmpty then return false
    else if input.isAtEnd then further
    else
      let input ← readMoreOf input
      modify fun e => { e with input := some input }
      if input.isAtEnd then further else return false

/-- Makes ranges as they are before any line. -/
def startRanges (commands : Array Command) : Array Range :=
  commands.map fun command => if command.beginsInside then .upToAddress else .outside

/-- Prints what is to be printed after the line. -/
def printAdded : Work Unit := do
  let added := (← editor).added.reverse
  modify fun e => { e with added := [] }
  added.forM fun
    | .text text => do
      endPrinted
      printText text
    | .file name => do
      endPrinted
      printText (← contentOf name)
    | .line line => do
      endPrinted
      printText (if line.isEnded then line.text ++ ['\n'] else line.text)

/-- Goes back to the start of a file that is read beside the input. -/
def rewound (input : Input) : Work Input := do
  if input.descriptor = 0 then return input
  ask (Program.goBack input.descriptor input.size)
  return { input with unread := [], size := 0, isAtEnd := false }

/-- Makes everything as it is before the first line, but for the line itself. -/
def beginAnew : Work Unit := do
  let readers ← (← editor).readers.mapM fun (name, input) => do return (name, ← rewound input)
  modify fun e =>
    { e with
      number := 0
      beginsAnew := false
      held := { e.held with text := [] }
      ranges := startRanges e.commands
      readers }

/-- Reads the next line: onto the present one, or in its place. The answer says whether there was
one. The first argument bounds the files. -/
def readNext (joins : Bool) : Nat → Work Bool
  | 0 => pure false
  | bound + 1 => do
    let e ← editor
    match e.input with
    | none =>
      match e.files with
      | [] => return false
      | name :: files => do
        if e.beginsAnew then beginAnew
        modify fun e => { e with files }
        openInput name
        readNext joins bound
    | some input => do
      let input ← readLineOf Tool.mostReads input
      let (found, input) := splitLine e.use.delimiter input
      modify fun e => { e with input := some input }
      match found with
      | none => do
        closeInput
        if e.use.isSeparate then modify fun e => { e with beginsAnew := true }
        readNext joins bound
      | some line => do
        modify fun e =>
          { e with
            number := e.number + 1
            line := if joins then { line with text := e.line.text ++ line.text } else line }
        return true

/-- Begins with the next line, after what is to be printed after the present one. -/
def nextLine (joins : Bool) : Work Bool := do
  printAdded
  modify fun e => { e with replaced := false }
  readNext joins (2 * (← editor).files.length + 3)

/-- Reads a line of a file that is read beside the input, if there is one. The file may be the input
itself. -/
def readBeside (name : Chars) : Work (Option Line) := do
  let e ← editor
  let some reader := e.readers.lookup name | return none
  let isInput : Bool := e.input.any fun input => input.descriptor == 0 && reader.descriptor == 0
  let input ← readLineOf Tool.mostReads (if isInput then e.input.getD reader else reader)
  let (line, input) := splitLine e.use.delimiter input
  modify fun e =>
    if isInput then { e with input := some input }
    else
      { e with
        readers := e.readers.map fun (other, known) =>
          (other, if other == name then input else known) }
  return line

/-- Ends with a code when all is done. -/
def finish {α : Type} (code : Nat) : Work α := do
  closeInput
  leave code

end Work

end Dialogue.LineEditor
