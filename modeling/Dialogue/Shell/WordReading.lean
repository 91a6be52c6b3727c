import Dialogue.Shell.Source

/-!
Reading words. Quotes, braces and arithmetic may stand in one another, and what a character means
depends on what is open around it; so a word is read with a stack of levels. Commands within words
are read by a function that is given.
-/

namespace Dialogue.Shell

open Reading

/-- How characters are quoted. -/
inductive Quoting
  | base
  | single
  | double
  | arithmetic
deriving Repr, DecidableEq

/-- What a character means. -/
inductive Meaning
  | letter
  /-- A character that means something in patterns or before names of homes, where it is quoted. -/
  | guarded
  | newline
  | backslash
  | singleQuote
  | doubleQuote
  | endQuote
  | dollar
  | backquote
  | endBrace
  | openParen
  | closeParen
  /-- The end of a word, if no brace is open. -/
  | ending
deriving Repr, DecidableEq

/-- Whether a character ends a word. -/
def endsWord (c : Char) : Bool := "<>();&| \t".toList.contains c

/-- What a character means where characters are quoted in some way. -/
def Quoting.meaning (quoting : Quoting) (c : Char) : Meaning :=
  if c = '\n' then .newline
  else
    match quoting with
    | .single => if c = '\'' then .endQuote else if isGuarded c then .guarded else .letter
    | .base =>
      if c = '\\' then .backslash
      else if c = '\'' then .singleQuote
      else if c = '"' then .doubleQuote
      else if c = '\x60' then .backquote
      else if c = '$' then .dollar
      else if c = '\x7d' then .endBrace
      else if endsWord c then .ending
      else .letter
    | .double =>
      if c = '\\' then .backslash
      else if c = '"' then .endQuote
      else if c = '\x60' then .backquote
      else if c = '$' then .dollar
      else if c = '\x7d' then .endBrace
      else if isGuarded c then .guarded
      else .letter
    | .arithmetic =>
      if c = '\\' then .backslash
      else if c = '\x60' then .backquote
      else if c = '$' then .dollar
      else if c = '\x7d' then .endBrace
      else if c = '(' then .openParen
      else if c = ')' then .closeParen
      else .letter

/-- A level of a word. -/
structure Level where
  quoting : Quoting
  /-- Double quotes are open, or something that is treated so. -/
  isDouble : Bool := false
  /-- Double quotes are open inside braces that stand in double quotes. -/
  isInner : Bool := false
  /-- How many braces are open. -/
  braces : Nat := 0
  /-- How many of them were opened in double quotes. -/
  doubleBraces : Nat := 0
  /-- How many parentheses are open. -/
  parens : Nat := 0
  /-- The level ends with its first brace. -/
  endsWithBrace : Bool := false

/-- What is open in a word. -/
inductive Opening
  | parameter (name : Chars) (form : Form) (emptyToo : Bool)
  | arithmetic

/-- A word as far as it has been read. -/
structure Draft where
  level : Level
  outer : List Level := []
  /-- The parts of what was opened last, the latest part first. -/
  parts : List Part := []
  /-- What is open, with the parts before it. -/
  openings : List (Opening × List Part) := []
  isQuoted : Bool := false

namespace Draft

/-- A draft with one more part. -/
def add (d : Draft) (part : Part) : Draft := { d with parts := part :: d.parts }

/-- A draft with its level changed. -/
def mapLevel (d : Draft) (f : Level → Level) : Draft := { d with level := f d.level }

/-- A draft in which a level has begun. -/
def push (d : Draft) (level : Level) : Draft :=
  { d with level, outer := d.level :: d.outer }

/-- A draft in which the level has ended. -/
def pop (d : Draft) : Draft :=
  match d.outer with
  | level :: outer => { d with level, outer }
  | [] => d

/-- A draft in which something has been opened. -/
def openPart (d : Draft) (opening : Opening) : Draft :=
  { d with parts := [], openings := (opening, d.parts) :: d.openings }

/-- A draft in which what was opened last is closed. -/
def closePart (d : Draft) : Draft :=
  match d.openings with
  | (opening, before) :: openings =>
    let inside := d.parts.reverse
    let part : Part :=
      match opening with
      | .parameter name form emptyToo => .parameter name form emptyToo inside
      | .arithmetic => .arithmetic inside
    { d with parts := part :: before, openings }
  | [] => d

end Draft

/-- What a word is read for. -/
structure Purpose where
  /-- It is a text in the script, with a line that ends it. -/
  mark : Option Chars := none
  stripsTabs : Bool := false
  /-- It is such a line: nothing in it is to be worked out. -/
  isMark : Bool := false

/-- Whether a text in the script is read. -/
def Purpose.isText (purpose : Purpose) : Bool := purpose.mark.isSome

/-- Reads commands within words. -/
structure Inner where
  /-- Up to the parenthesis that closes it, which is taken. -/
  command : Reading (Option Command)
  /-- The text of a whole script. -/
  script : Chars → Reading (Option Command)

/-- How far a word may go. -/
def mostCharacters : Nat := 100000000

/-- Reads the text of a command between backquotes, after the first of them. The first argument
bounds it. -/
def readBackquoted (isDouble : Bool) : Nat → Chars → Reading Chars
  | 0, text => pure text.reverse
  | bound + 1, text => do
    match ← peekJoined with
    | none => refuse "EOF in backquote substitution"
    | some '\n' =>
      takeNewline
      readBackquoted isDouble bound ('\n' :: text)
    | some '\\' =>
      take
      match ← peek with
      | none => refuse "EOF in backquote substitution"
      | some c =>
        take
        let meant := c == '\\' || c == '\x60' || c == '$' || (isDouble && c == '"')
        readBackquoted isDouble bound (if meant then c :: text else c :: '\\' :: text)
    | some c =>
      take
      if c = '\x60' then return text.reverse else readBackquoted isDouble bound (c :: text)

/-- What is made of a parameter whose name has been read, by the character that follows. -/
def readForm : Reading (Form × Bool) := do
  let byChar : Option Char → Form
    | some '\x7d' => .plain
    | some '-' => .orElse
    | some '+' => .ifSet
    | some '?' => .orFail
    | some '=' => .orAssign
    | _ => .illegal
  let c ← peekJoined
  take
  match c with
  | some ':' =>
    let c ← peekJoined
    take
    return (byChar c, true)
  | some '#' => return (.trim true (← accept '#'), false)
  | some '%' => return (.trim false (← accept '%'), false)
  | c => return (byChar c, false)

/-- Reads a parameter in braces, after the opening one: its name and what is made of it. -/
def readBraced : Reading (Chars × Form × Bool) := do
  -- The name of the parameter, or none if there is none.
  let name? (ofLength : Bool) : Reading (Option Chars) := do
    match ← peekJoined with
    | some c =>
      if isNameStart c then return some (← takeWhile isNameChar mostCharacters [])
      else if c.isDigit then return some (← takeWhile Char.isDigit mostCharacters [])
      else if c = '\x7d' || ofLength then return none
      else
        take
        return if isSpecial c then some [c] else none
    | none => return none
  if (← peekJoined) = some '#' then
    let start ← get
    take
    let first ← peekJoined
    if first.any isNameChar then
      let name := (← name? true).getD []
      return (name, if (← peekJoined) = some '\x7d' then .length else .illegal, false)
    else
      -- A sign is measured only if the brace follows at once.
      take
      let closed := (← peekJoined) = some '\x7d'
      match first with
      | some c =>
        if closed && c != '\x7d' then
          return ([c], if isSpecial c then .length else .illegal, false)
        else
          set start
          take
          let (form, emptyToo) ← readForm
          return (['#'], form, emptyToo)
      | none => return (['#'], .illegal, false)
  else
    match ← name? false with
    | none => return ([], .illegal, false)
    | some name =>
      let (form, emptyToo) ← readForm
      return (name, form, emptyToo)

/-- Begins a parameter in a draft. One of which nothing is made is complete at once. -/
def Draft.beginParameter (d : Draft) (name : Chars) (form : Form) (emptyToo : Bool) : Draft :=
  if form = .plain && !emptyToo then d.add (.parameter name form emptyToo [])
  else
    let quoting :=
      match form with
      | .trim _ _ => .base
      | _ => if d.level.quoting = .arithmetic then .double else d.level.quoting
    let d :=
      if quoting ≠ d.level.quoting ∨ d.level.isInner then
        d.push { quoting, isDouble := quoting ≠ .base, endsWithBrace := true }
      else d
    let d := d.mapLevel fun level =>
      { level with
        braces := level.braces + 1
        doubleBraces := if level.isDouble then level.doubleBraces + 1 else level.doubleBraces }
    d.openPart (.parameter name form emptyToo)

/-- Reads what follows a dollar sign, which has been taken. -/
def readDollar (inner : Inner) (purpose : Purpose) (d : Draft) : Reading Draft := do
  let next ← peekJoined
  if purpose.isMark then return d.add (.plain '$')
  else
    match next with
    | some '(' =>
      take
      if ← accept '(' then
        return (d.push { quoting := .arithmetic, isDouble := true }).openPart .arithmetic
      else return d.add (.output (← inner.command))
    | some '\x7b' =>
      take
      let (name, form, emptyToo) ← readBraced
      return d.beginParameter name form emptyToo
    | some c =>
      if isNameStart c then
        return d.add (.parameter (← takeWhile isNameChar mostCharacters []) .plain false [])
      else if isSpecial c then
        take
        return d.add (.parameter [c] .plain false [])
      else return d.add (.plain '$')
    | none => return d.add (.plain '$')

/-- Reads what follows a backslash, which has been taken. -/
def readEscaped (purpose : Purpose) (d : Draft) : Reading Draft := do
  match ← peek with
  | none => return d.add (.escaped '\\')
  | some c =>
    take
    let level := d.level
    let inBraces := if 0 < level.doubleBraces then level.isInner else level.isDouble
    let stays := level.isDouble && c != '\\' && c != '\x60' && c != '$'
      && (c != '"' || (purpose.isText && level.braces == 0))
      && (c != '\x7d' || level.braces == 0 || inBraces)
    let d := if stays then d.add (.escaped '\\') else d
    return { d.add (.escaped c) with isQuoted := true }

/-- A draft in which quotes begin or end. -/
def Draft.mark (d : Draft) (purpose : Purpose) : Draft :=
  if purpose.isText then d else d.add .quote

/-- A draft in which double quotes begin or end within braces. -/
def Draft.toggle (d : Draft) : Draft :=
  d.mapLevel fun level =>
    if 0 < level.braces then { level with isInner := !level.isInner } else level

/-- A draft in which quotes end. -/
def Draft.endQuote (d : Draft) (purpose : Purpose) (c : Char) : Draft :=
  let d := d.mapLevel fun level =>
    if level.doubleBraces = 0 then { level with quoting := .base, isDouble := false } else level
  let d := { d with isQuoted := true }
  (if c = '"' then d.toggle else d).mark purpose

/-- A draft in which a brace is closed. -/
def Draft.endBrace (d : Draft) : Draft :=
  let level := d.level
  let d :=
    if level.braces = 1 && level.endsWithBrace then d.pop
    else
      { d with
        level :=
          { level with
            braces := level.braces - 1
            doubleBraces := level.doubleBraces - 1 } }
  d.closePart

/-- Whether the line that ends a text comes next. It is taken then, and so are tabs before it in
any case, if they are to be. -/
def takeMark (purpose : Purpose) (mark : Chars) : Reading Bool := do
  if purpose.stripsTabs then
    let _ ← takeWhile (· == '\t') mostCharacters []
  let s ← get
  let rest := s.unread
  if !s.isWhole && rest.length ≤ mark.length && rest.isPrefixOf mark then throw .unfinished
  else if mark.isPrefixOf rest then
    match rest.drop mark.length with
    | [] =>
      set (s.dropMany mark.length)
      return true
    | '\n' :: _ =>
      set (s.dropMany (mark.length + 1)).nextLine
      return true
    | _ => return false
  else return false

/-- Reads the parts of a word, as far as it goes. The first argument bounds them. -/
def readParts (inner : Inner) (purpose : Purpose) : Nat → Draft → Reading Draft
  | 0, d => pure d
  | bound + 1, d => do
    let level := d.level
    let onward := readParts inner purpose bound
    match ← if level.quoting = .single then peek else peekJoined with
    | none => return d
    | some c =>
      match level.quoting.meaning c with
      | .letter =>
        take
        onward (d.add (.plain c))
      | .guarded =>
        take
        onward (d.add (.escaped c))
      | .newline =>
        if level.quoting = .base && level.braces = 0 then return d
        else
          takeNewline
          let d := d.add (.plain c)
          match purpose.mark with
          | some mark =>
            joinLines mostLines
            if ← takeMark purpose mark then return d else onward d
          | none => onward d
      | .backslash =>
        take
        onward (← readEscaped purpose d)
      | .singleQuote =>
        take
        onward ((d.mapLevel fun level => { level with quoting := .single }).mark purpose)
      | .doubleQuote =>
        take
        let d := d.mapLevel fun level => { level with quoting := .double, isDouble := true }
        onward (d.toggle.mark purpose)
      | .endQuote =>
        take
        if purpose.isText && level.braces = 0 then onward (d.add (.plain c))
        else onward (d.endQuote purpose c)
      | .dollar =>
        take
        onward (← readDollar inner purpose d)
      | .backquote =>
        take
        if purpose.isMark then onward (d.add (.plain c))
        else
          let text ← readBackquoted level.isDouble mostCharacters []
          onward (d.add (.output (← inner.script text)))
      | .endBrace =>
        take
        if !level.isInner && 0 < level.braces then onward d.endBrace
        else onward (d.add (.plain c))
      | .openParen =>
        take
        onward ((d.mapLevel fun level => { level with parens := level.parens + 1 }).add (.plain c))
      | .closeParen =>
        take
        if 0 < level.parens then
          onward ((d.mapLevel fun level => { level with parens := level.parens - 1 }).add
            (.plain c))
        else if ← accept ')' then onward d.closePart.pop
        else onward (d.add (.plain c))
      | .ending =>
        if level.braces = 0 then return d
        else
          take
          onward (d.add (.plain c))

/-- Refuses a word in which something is still open. -/
def checkClosed (purpose : Purpose) (d : Draft) : Reading Unit := do
  if d.level.quoting = .arithmetic then refuse "Missing '))'"
  if d.level.quoting ≠ .base && !purpose.isText then refuse "Unterminated quoted string"
  if d.level.braces ≠ 0 then refuse "Missing '\x7d'"

/-- Reads the lines of a text of which nothing is to be worked out. The first argument bounds
them. -/
def readLines (purpose : Purpose) (mark : Chars) : Nat → Chars → Reading Chars
  | 0, lines => pure lines.reverse
  | bound + 1, lines => do
    if ← takeMark purpose mark then return lines.reverse
    else
      let s ← get
      let line := s.unread.takeWhile (· ≠ '\n')
      if s.unread.contains '\n' then
        set (s.dropMany (line.length + 1)).nextLine
        readLines purpose mark bound ('\n' :: line.reverse ++ lines)
      else if s.isWhole then
        set (s.dropMany line.length)
        return (line.reverse ++ lines).reverse
      else throw .unfinished

/-- Reads a text in the script. -/
def readText (inner : Inner) (pending : PendingText) : Reading HereText := do
  let purpose : Purpose := { mark := some pending.mark, stripsTabs := pending.stripsTabs }
  if pending.isExpanded then
    joinLines mostLines
    if ← takeMark purpose pending.mark then return { isExpanded := true, word := [] }
    else
      let start : Draft := { level := { quoting := .double, isDouble := true } }
      let d ← readParts inner purpose mostCharacters start
      checkClosed purpose d
      return { isExpanded := true, word := d.parts.reverse }
  else
    let lines ← readLines purpose pending.mark mostLines []
    return { isExpanded := false, word := lines.map .plain }

/-- Reads the texts that the line asked for. -/
def readTexts (inner : Inner) : Reading Unit := do
  let pending := (← get).pending
  modify fun s => { s with pending := [] }
  pending.forM fun p => do
    let text ← readText inner p
    modify fun s => { s with texts := (p.number, text) :: s.texts }

/-- Reads the rest of the sign of a redirection, after its first character. -/
def readSign (input : Bool) (digit : Option Nat) : Reading Token := do
  let descriptor := digit.getD (if input then 0 else 1)
  let sign : RedirectionSign ←
    if input then
      if ← accept '<' then pure (.text (← accept '-'))
      else if ← accept '&' then pure .duplicate
      else if ← accept '>' then pure (.file .update)
      else pure (.file .read)
    else
      if ← accept '>' then pure (.file .append)
      else if ← accept '|' then pure (.file .clobber)
      else if ← accept '&' then pure .duplicate
      else pure (.file .write)
  return .redirection descriptor sign

/-- Reads a word, or the sign of a redirection with the digit before it. -/
def readWord (inner : Inner) (purpose : Purpose) : Reading Token := do
  let d ← readParts inner purpose mostCharacters { level := { quoting := .base } }
  checkClosed purpose d
  let word := d.parts.reverse
  let digit? : Option (Option Nat) :=
    if d.isQuoted then none
    else
      match word with
      | [] => some none
      | [.plain c] => if c.isDigit then some (some (c.toNat - '0'.toNat)) else none
      | _ => none
  match ← peekJoined, digit? with
  | some '<', some digit =>
    take
    readSign true digit
  | some '>', some digit =>
    take
    readSign false digit
  | _, _ =>
    modify fun s => { s with lastWord := word }
    return .word word d.isQuoted

/-- Skips a comment. The first argument bounds it. -/
def skipComment : Nat → Reading Unit
  | 0 => pure ()
  | bound + 1 => do
    match ← peek with
    | none => pure ()
    | some c =>
      if c = '\n' then pure ()
      else
        take
        skipComment bound

/-- Reads the next token as it stands. The first argument bounds the blanks before it. -/
def scanToken (inner : Inner) (purpose : Purpose) : Nat → Reading Token
  | 0 => pure .endOfFile
  | bound + 1 => do
    let double (c : Char) (yes no : Token) : Reading Token := do
      take
      return if ← accept c then yes else no
    match ← peekJoined with
    | none => return .endOfFile
    | some ' ' =>
      take
      scanToken inner purpose bound
    | some '\t' =>
      take
      scanToken inner purpose bound
    | some '#' =>
      skipComment mostCharacters
      scanToken inner purpose bound
    | some '\n' =>
      takeNewline
      return .newline
    | some '&' => double '&' .andIf .ampersand
    | some '|' => double '|' .orIf .pipe
    | some ';' => double ';' .endArm .semicolon
    | some '(' =>
      take
      return .openParen
    | some ')' =>
      take
      return .closeParen
    | some _ => readWord inner purpose

end Dialogue.Shell
