import Dialogue.LineEditor.Editor

/-!
Running a script. All commands are run on each line, one after the other; then the line is printed
and the next one is read. A command may lead elsewhere in the script, begin with the next line, or
end it all.
-/

namespace Dialogue.LineEditor

open Work

/-- How one command comes out. -/
inductive Flow
  /-- The command of this number follows. -/
  | goTo (command : Nat)
  /-- The line is done with; the flag says that it is printed. -/
  | done (prints : Bool)
  /-- The script begins anew with what is left of the line. -/
  | again
  /-- Everything ends with a code; the flag says that the line is printed. -/
  | quit (prints : Bool) (code : Nat)

/-- The matcher that is meant, which is then the one that was used last. -/
def meantMatcher (matcher : Option Matcher) : Work Matcher := do
  match matcher with
  | some m => do
    modify fun e => { e with lastMatcher := some m }
    return m
  | none =>
    match (← editor).lastMatcher with
    | some m => return m
    | none => failScript .noLastExpression

/-- Whether an address names the present line. -/
def names (address : Address) : Work Bool := do
  let e ← editor
  match address with
  | .everyLine => return true
  | .line number => return e.number == number
  | .stride first step => return first ≤ e.number && (e.number - first) % step == 0
  | .lastLine => isAtLast
  | .matching matcher => do
    let m ← meantMatcher matcher
    return m.isIn e.use.delimiter (← editor).line.text

/-- Sets whether one is in the range of a command. -/
def setRange (index : Nat) (range : Range) : Work Unit :=
  modify fun e => { e with ranges := e.ranges.setIfInBounds index range }

/-- The range of a command when it is over: one that begins at the line of some number or later does
not begin again. -/
def rangeAfter : Address → Range
  | .line _ => .past
  | _ => .outside

/-- The range that begins at the present line. It is over if it has only that line. -/
def rangeFrom (first : Address) (last : RangeEnd) : Work Range := do
  let number := (← editor).number
  let upTo (line : Nat) : Range := if line ≤ number then rangeAfter first else .upTo line
  match last with
  | .address (.line line) => return upTo line
  | .address (.matching _) => return .upToAddress
  | .address address => return if ← names address then rangeAfter first else .upToAddress
  | .after count => return upTo (number + count)
  | .multiple of => return upTo (if of = 0 then number else number + (of - number % of))

/-- Whether the range of a command begins at the present line. It may begin after the line of some
number if the command was passed over there, but not after the line with which it ends. -/
def beginsRange (first : Address) (last : RangeEnd) : Work Bool := do
  let number := (← editor).number
  match first, last with
  | .line line, .address (.line stop) => return number == line || (line ≤ number && number ≤ stop)
  | .line line, _ => return line ≤ number
  | first, _ => names first

/-- Whether a command is for the present line, its negation aside. -/
def isAddressed (index : Nat) (command : Command) : Work Bool := do
  let e ← editor
  match command.first, command.last, e.ranges.getD index .outside with
  | none, _, _ => return true
  | some first, none, _ => names first
  | some first, some last, .outside => do
    let begins ← beginsRange first last
    if begins then setRange index (← rangeFrom first last)
    return begins
  | some _, some _, .past => return false
  | some first, some last, .upTo line => do
    if line ≤ e.number then setRange index (rangeAfter first)
    match last with
    | .address _ => return e.number ≤ line
    | _ => return true
  | some first, some last, .upToAddress => do
    let isLast : Bool ←
      match last with
      | .address address => names address
      | _ => pure true
    if isLast then setRange index (rangeAfter first)
    return true

/-- Whether one is in the middle of the range of a command. -/
def isInRange (index : Nat) : Work Bool := do
  match (← editor).ranges.getD index .outside with
  | .upTo _ => return true
  | .upToAddress => return true
  | _ => return false

/-- The output of a command that a shell runs. -/
def outputOf (command : Chars) : Work Chars := do
  let vars := (← editor).use.vars
  let (reading, writing) ← ask Program.pipe
  let child : Program :=
    .close reading fun _ =>
      let run : Program :=
        .execute (Text.octets "/bin/sh")
          [Text.octets "sh", Text.octets "-c", Text.toOctets command] vars fun _ => .exit 127
      if writing = 1 then run
      else .duplicate writing 1 fun _ => .close writing fun _ => run
  let id ← ask (Program.fork child)
  ask (Program.close writing)
  let octets ← ask (Tool.readAll reading Tool.mostReads [])
  ask (Program.close reading)
  let _ ← ask (Program.wait id false)
  return Text.ofOctets (octets.toOption.getD [])

/-- A text without the delimiter at its end. -/
def withoutEnd (delimiter : Char) (text : Chars) : Chars :=
  if text.getLast? = some delimiter then text.dropLast else text

/-- Replaces the line by the output of the command that it is. -/
def runLine : Work Unit := do
  let e ← editor
  let text ← outputOf (e.line.text.takeWhile (· ≠ '\x00'))
  modify fun e => { e with line := { e.line with text := withoutEnd e.use.delimiter text } }

/-- Replaces in the present line. -/
def substitute (s : Substitution) : Work Unit := do
  let m ← meantMatcher s.matcher
  let e ← editor
  if m.automaton.groups + 1 < s.groups && !e.use.isStrict then
    failScript (.badReference (s.groups - 1))
  if let some (text, isReplaced) := s.replace? m e.use.delimiter e.line.text then
    modify fun e => { e with wasEnded := e.line.isEnded }
    unless isReplaced do return
    modify fun e => { e with replaced := true, line := { e.line with text } }
    if s.prints.before then printLine (← editor).line
    if s.runs then runLine
    if s.prints.after then printLine (← editor).line
    if let some target := s.target then writeTo target (← editor).line

/-- The first part of a line, up to a delimiter. -/
def firstPart (delimiter : Char) (line : Line) : Line :=
  { text := line.text.takeWhile (· ≠ delimiter)
    isEnded := line.isEnded || line.text.contains delimiter }

/-- Prints a text that a command puts beside the line. -/
def printBeside (text : Chars) : Work Unit := do
  endPrinted
  let delimiter := (← editor).use.delimiter
  printText (if text.getLast? = some '\n' then text.dropLast ++ [delimiter] else text)

/-- Does what a command does, and tells what follows. -/
def perform (index : Nat) (command : Command) : Work Flow := do
  let e ← editor
  let onward : Flow := .goTo (index + 1)
  let delimiter := e.use.delimiter
  let setLine (line : Line) : Work Flow := do
    modify fun e => { e with line }
    return onward
  let add (added : Added) : Work Flow := do
    modify fun e => { e with added := added :: e.added }
    return onward
  let joined (line other : Line) : Line :=
    { other with text := line.text ++ delimiter :: other.text }
  match command.action with
  | .nothing => return onward
  | .block _ => return onward
  | .jump goal => return .goTo goal
  | .jumpIfReplaced goal => do
    if e.replaced then
      modify fun e => { e with replaced := false }
      return .goTo goal
    else return onward
  | .jumpUnlessReplaced goal => do
    if e.replaced then
      modify fun e => { e with replaced := false }
      return onward
    else return .goTo goal
  | .append text => add (.text text)
  | .insert text => do
    printBeside text
    return onward
  | .change text => do
    if !(← isInRange index) then printBeside text
    return .done false
  | .delete => return .done false
  | .deleteFirst => do
    if e.line.text.contains delimiter then
      let text := (e.line.text.dropWhile (· ≠ delimiter)).drop 1
      modify fun e => { e with line := { e.line with text } }
      return .again
    else return .done false
  | .execute none => do
    runLine
    modify fun e =>
      { e with line := { e.line with isEnded := e.wasEnded }, wasEnded := e.line.isEnded }
    return onward
  | .execute (some text) => do
    endPrinted
    let output ← outputOf text
    printText output
    return onward
  | .printFileName => do
    endPrinted
    printText (e.fileName ++ [delimiter])
    return onward
  | .printNumber => do
    endPrinted
    printText (Text.decimal e.number ++ [delimiter])
    return onward
  | .get => setLine e.held
  | .getMore => setLine (joined e.line e.held)
  | .hold => do
    modify fun e => { e with held := e.line }
    return onward
  | .holdMore => do
    modify fun e => { e with held := joined e.held e.line }
    return onward
  | .exchange => do
    modify fun e => { e with line := e.held, held := e.line }
    return onward
  | .list width => do
    endPrinted
    printText (listed delimiter (width.getD e.use.width) 0 e.line.text ++ [delimiter])
    return onward
  | .next => do
    if !e.use.isQuiet then printLine e.line
    if ← isAtLast then return .done false
    else if ← nextLine false then return onward
    else return .done false
  | .nextMore => do
    if ← isAtLast then return .done (!e.use.isStrict)
    else
      modify fun e => { e with line := { e.line with text := e.line.text ++ [delimiter] } }
      if ← nextLine true then return onward else return .done (!e.use.isStrict)
  | .print => do
    printLine e.line
    return onward
  | .printFirst => do
    printLine (firstPart delimiter e.line)
    return onward
  | .quit prints code => return .quit prints code
  | .readFile name => add (.file name)
  | .printFile name => do
    printLater (← contentOf name)
    return onward
  | .readLine name => do
    match ← readBeside name with
    | some line => add (.line line)
    | none => return onward
  | .substitute s => do
    substitute s
    return onward
  | .write target => do
    writeTo target e.line
    return onward
  | .writeFirst target => do
    writeTo target (firstPart delimiter e.line)
    return onward
  | .transliterate table =>
    setLine { e.line with text := e.line.text.map fun c => (table.lookup c).getD c }
  | .clear => setLine { e.line with text := [] }

/-- How many commands are run at most. -/
def mostCommands : Nat := 100000000

/-- Runs the commands from one on. The first argument bounds them. -/
def runFrom : Nat → Nat → Work Flow
  | 0, _ => pure (.done true)
  | bound + 1, index => do
    match (← editor).commands[index]? with
    | none => return .done true
    | some command => do
      ask Program.pass
      let isMeant := (← isAddressed index command) != command.negated
      match command.action, isMeant with
      | .block stop, false => runFrom bound stop
      | _, false => runFrom bound (index + 1)
      | _, true => do
        match ← perform index command with
        | .goTo index => runFrom bound index
        | flow => return flow

/-- Runs the script on line after line. The first argument bounds how often. -/
def runCycles : Nat → Bool → Work Unit
  | 0, _ => pure ()
  | bound + 1, reads => do
    let isThere ← if reads then nextLine false else pure true
    if isThere then
      let isQuiet := (← editor).use.isQuiet
      match ← runFrom mostCommands 0 with
      | .goTo _ => runCycles bound true
      | .again => runCycles bound false
      | .done prints => do
        if prints && !isQuiet then printLine (← editor).line
        runCycles bound true
      | .quit prints code => do
        if prints then
          if !isQuiet then printLine (← editor).line
          endPrinted
          printAdded
        let noted := (← editor).code
        finish (if noted = 0 then code else noted)

/-- Runs the script on all lines, and ends. -/
def runScript : Work Unit := do
  runCycles mostCommands true
  printAdded
  finish (← editor).code

end Dialogue.LineEditor
