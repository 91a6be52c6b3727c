import Dialogue.LineEditor.Escape

/-!
Scripts as they are written. A script is read in parts, each an argument or a file; a text that is
put beside lines may begin in one part and end in the next.
-/

namespace Dialogue.LineEditor

/-- How scripts are read. -/
structure Settings where
  /-- Expressions are in the extended notation. -/
  isExtended : Bool := false
  /-- Only what every line editor knows is allowed. -/
  isStrict : Bool := false
  /-- Commands that use files or run other commands are refused. -/
  isConfined : Bool := false

/-- Where a part of a script comes from. -/
inductive Origin
  /-- An argument, by its number. -/
  | argument (number : Nat)
  | file (name : Chars)

/-- A block that has not ended. -/
structure OpenBlock where
  command : Nat
  origin : Origin
  line : Nat

/-- A text that goes on in the next part. -/
structure UnfinishedText where
  command : Nat
  text : Chars

/-- What has been read of a script. -/
structure Draft where
  settings : Settings := {}
  origin : Origin := .argument 0
  rest : Chars := []
  /-- How many characters of this part have been read. -/
  taken : Nat := 0
  line : Nat := 0
  isFirst : Bool := true
  commands : Array Command := #[]
  blocks : List OpenBlock := []
  labels : List (Chars × Nat) := []
  /-- The commands that lead elsewhere, with the labels that they lead to, the last one first. -/
  jumps : List (Nat × Chars) := []
  unfinished : Option UnfinishedText := none
  /-- The files that are written, the last one first. -/
  targets : List Chars := []
  isQuiet : Bool := false

/-- Why reading ends. -/
inductive Refusal
  | fault (fault : ScriptFault)
  /-- A set of characters looks like a class of them. -/
  | bareClass
  /-- There is no such label. -/
  | noLabel (label : Chars)

/-- Reading a script: it may be refused at some place. -/
abbrev Reading := EStateM Refusal Draft

namespace Reading

/-- Refuses the script. -/
def refuse {α : Type} (fault : ScriptFault) : Reading α := throw (.fault fault)

/-- The next character, if there is one. -/
def peek : Reading (Option Char) := do return (← get).rest.head?

/-- Takes so many characters. -/
def drop (count : Nat) : Reading Unit :=
  modify fun draft =>
    { draft with
      rest := draft.rest.drop count
      taken := draft.taken + min count draft.rest.length
      line := draft.line + (draft.rest.take count).count '\n' }

/-- Takes the next character, if there is one. -/
def take : Reading (Option Char) := do
  let c ← peek
  drop 1
  return c

/-- Whether a character is a blank. -/
def isBlank (c : Char) : Bool := c == ' ' || c == '\t'

/-- Whether a character may stand between commands. -/
def isGap (c : Char) : Bool := gapSet.contains c || c == ';'

/-- Takes the characters that satisfy a condition. -/
def takeWhile (condition : Char → Bool) : Reading Chars := do
  let text := (← get).rest.takeWhile condition
  drop text.length
  return text

/-- Takes blanks, and the character after them. -/
def takeNonblank : Reading (Option Char) := do
  let _ ← takeWhile isBlank
  take

/-- Takes a number; without any digit it is zero. -/
def takeNumber : Reading Nat := do
  return Number.ofDigits 10 (← takeWhile Char.isDigit)

/-- Takes the end of a command. -/
def takeEnd : Reading Unit := do
  let _ ← takeWhile isBlank
  match ← peek with
  | some '\x7d' => return
  | some '#' => return
  | none => return
  | some c => do
    drop 1
    if c ≠ '\n' ∧ c ≠ ';' then refuse .junk

/-- Where one is in a set of characters in brackets. -/
inductive InSet
  | outside
  /-- Right behind the opening bracket, or the caret after it. -/
  | atStart (afterCaret : Bool)
  | inside
  /-- Behind a bracket that may open a name between signs. -/
  | atOpening
  | inName (sign : Char)
  /-- Behind a sign that may end the name. -/
  | atSign (sign : Char)

/-- Where one is behind a character. -/
def InSet.step (place : InSet) (c : Char) : InSet :=
  match place with
  | .outside => if c = '[' then .atStart false else .outside
  | .atStart afterCaret =>
    if c = '^' && !afterCaret then .atStart true
    else if c = '[' then .atOpening
    else .inside
  | .inside => if c = '[' then .atOpening else if c = ']' then .outside else .inside
  | .atOpening =>
    if ".:=".toList.contains c then .inName c
    else if c = '[' then .atOpening
    else if c = ']' then .outside
    else .inside
  | .inName sign => if c = sign then .atSign sign else .inName sign
  | .atSign sign =>
    if c = ']' then .inside else if c = '[' then .atSign sign else .inName sign

/-- The text up to a delimiter, and the rest behind it. There is no text if the delimiter does not
come on the same line. A set of characters in an expression may hold the delimiter; in a strict
script it has no escapes. -/
def delimited (isExpression isStrict : Bool) (delimiter : Char) :
    InSet → Chars → Option Chars × Chars
  | _, [] => (none, [])
  | place, c :: rest =>
    let isOutside := place matches .outside
    if c = '\n' then (none, c :: rest)
    else if c = delimiter && isOutside then (some [], rest)
    else if c = '\\' then
      match rest with
      | [] => (none, [])
      | d :: rest =>
        if d = '\n' && !isOutside then (none, d :: rest)
        else
          let kept : Chars :=
            if d = 'n' && isExpression && (isOutside || !isStrict) then ['\n']
            else if d = '\n' then [d]
            else if d = delimiter && isOutside && (isExpression || d != '&') then [d]
            else ['\\', d]
          -- A backslash in a set is one of its characters.
          let place := if isOutside then place else (place.step c).step d
          let (text, rest) := delimited isExpression isStrict delimiter place rest
          (text.map (kept ++ ·), rest)
    else
      let place := if isExpression then place.step c else place
      let (text, rest) := delimited isExpression isStrict delimiter place rest
      (text.map (c :: ·), rest)

/-- Takes a text up to a delimiter, or refuses the script. -/
def takeDelimited (isExpression : Bool) (delimiter : Option Char) (fault : ScriptFault) :
    Reading Chars := do
  match delimiter with
  | none => refuse fault
  | some delimiter => do
    let before := (← get).rest
    let isStrict := (← get).settings.isStrict
    let (text, rest) := delimited isExpression isStrict delimiter .outside before
    drop (before.length - rest.length)
    match text with
    | some text => return text
    | none => refuse fault

/-- An expression with its escapes worked out. In a strict script sets have none. -/
def escapedExpression (isStrict : Bool) (text : Chars) : Except ScriptFault Chars :=
  if !isStrict then escaped .expression text
  else
    -- The parts outside of sets are worked out one by one.
    let rec parts (place : InSet) (outside : Chars) : Chars → Except ScriptFault Chars
      | [] => escaped .expression outside
      | '\\' :: c :: rest =>
        if place matches .outside then parts place (outside ++ ['\\', c]) rest
        else
          (parts ((place.step '\\').step c) [] rest).map ('\\' :: c :: ·)
      | c :: rest =>
        let next := place.step c
        if place matches .outside then
          if next matches .outside then parts next (outside ++ [c]) rest
          else do return (← escaped .expression outside) ++ c :: (← parts next [] rest)
        else (parts next [] rest).map (c :: ·)
    parts .outside [] text

/-- The flags of an expression. -/
structure ExpressionFlags where
  anyCase : Bool := false
  perLine : Bool := false

/-- The matcher of an expression, of which so many groups are asked for; an empty one stands for the
one that was used last. -/
def matcher (text : Chars) (flags : ExpressionFlags) (groups : Nat) :
    Reading (Option Matcher) := do
  if text.isEmpty then
    if flags.anyCase || flags.perLine then refuse .modifiedLastExpression
    return none
  let settings := (← get).settings
  let meant ←
    match escapedExpression settings.isStrict text with
    | .ok meant => pure meant
    | .error fault => refuse fault
  let dialect : Dialect :=
    { isExtended := settings.isExtended
      anyCase := flags.anyCase
      perLine := flags.perLine
      isPlain := settings.isStrict
      allowsLoneClose := settings.isStrict }
  match dialect.read meant with
  | .error fault => refuse (.expression fault)
  | .ok e => do
    if e.groups + 1 < groups && !settings.isStrict then refuse (.badReference (groups - 1))
    if e.looksLikeClass then throw .bareClass
    return some { automaton := Automaton.ofExpression e, dialect }

/-- Takes the flags of an expression in an address. The first argument bounds them. -/
def takeExpressionFlags : Nat → ExpressionFlags → Reading ExpressionFlags
  | 0, flags => pure flags
  | bound + 1, flags => do
    let _ ← takeWhile isBlank
    match ← peek, (← get).settings.isStrict with
    | some 'I', false => do
      drop 1
      takeExpressionFlags bound { flags with anyCase := true }
    | some 'M', false => do
      drop 1
      takeExpressionFlags bound { flags with perLine := true }
    | _, _ => return flags

/-- Takes an expression as an address, after its delimiter. -/
def takeExpression (delimiter : Option Char) : Reading Address := do
  let text ← takeDelimited true delimiter .openAddress
  let flags ← takeExpressionFlags ((← get).rest.length + 1) {}
  return .matching (← matcher text flags 0)

/-- Takes a line, and its step if there is one, after the first digit. -/
def takeLine (digit : Char) : Reading Address := do
  let digits ← takeWhile Char.isDigit
  let line := Number.ofDigits 10 (digit :: digits)
  let _ ← takeWhile isBlank
  if (← peek) = some '~' && !(← get).settings.isStrict then
    drop 1
    let _ ← takeWhile isBlank
    match ← takeNumber with
    | 0 => return .line line
    | step => return .stride line step
  else return .line line

/-- Takes an address that begins with a character, if it does begin one. -/
def takeAddress (c : Option Char) : Reading (Option RangeEnd) := do
  match c with
  | some '/' => return some (.address (← takeExpression c))
  | some '\\' => return some (.address (← takeExpression (← take)))
  | some '$' => return some (.address .lastLine)
  | some '+' => do
    if (← get).settings.isStrict then return none
    let _ ← takeWhile isBlank
    return some (.after (← takeNumber))
  | some '~' => do
    if (← get).settings.isStrict then return none
    let _ ← takeWhile isBlank
    return some (.multiple (← takeNumber))
  | some c => if c.isDigit then return some (.address (← takeLine c)) else return none
  | none => return none

/-- Takes the end of a range, if there is one, after the first address: the command with both, and
the character after them. -/
def takeLast (first : Address) : Reading (Command × Option Char) := do
  let c ← takeNonblank
  let (last, c) ←
    if c = some ',' then do
      match ← takeAddress (← takeNonblank) with
      | none => refuse .unexpectedComma
      | some last => do pure (some last, ← takeNonblank)
    else pure (none, c)
  if let .line 0 := first then
    if (← get).settings.isStrict then refuse .lineZero
    match last with
    | some (.address (.matching _)) => pure ()
    | none => if c ≠ some 'r' then refuse .lineZero
    | _ => refuse .lineZero
  return ({ first := some first, last }, c)

/-- Takes the addresses of a command: the command with them, and the character after them. -/
def takeAddresses (c : Option Char) : Reading (Command × Option Char) := do
  match ← takeAddress c with
  | none => return ({}, c)
  | some (.address first) => takeLast first
  | some (.after (_ + 1)) => refuse .firstCount
  | some (.multiple (_ + 1)) => refuse .firstCount
  | some _ => takeLast .everyLine

/-- Takes the name of a file, which is all of the line. -/
def takeFileName : Reading Chars := do
  let _ ← takeWhile isBlank
  let name ← takeWhile (· ≠ '\n')
  drop 1
  if name.isEmpty then refuse .noFileName
  return name

/-- Takes the name of a file that is written. -/
def takeTarget : Reading Target := do
  let name ← takeFileName
  if name = Text.spell "/dev/stdout" then return .output
  else if name = Text.spell "/dev/stderr" then return .complaints
  else
    modify fun draft =>
      if draft.targets.contains name then draft
      else { draft with targets := name :: draft.targets }
    return .file name

/-- Takes a label. -/
def takeLabel : Reading Chars := do
  let _ ← takeWhile isBlank
  takeWhile fun c => !" \t\n;#\x7d".contains c

/-- The parts of a replacement. What was read since the last part comes first, and then how letters
are changed: now, and after this part. -/
def replacementParts (isStrict : Bool) (before : Chars) (change later : CaseChange) :
    Chars → List ReplacementPart
  | ['\\'] => [{ text := before ++ ['\\'], group := none, change }]
  | '\\' :: c :: rest =>
    let part : ReplacementPart := { text := before, group := none, change }
    let changed (change later : CaseChange) : List ReplacementPart :=
      part :: replacementParts isStrict [] change later rest
    if c.isDigit then
      { part with group := some (c.toNat - '0'.toNat) }
        :: replacementParts isStrict [] later later rest
    else
      match if isStrict then '\\' else c with
      | 'U' => changed { others := .upper } { others := .upper }
      | 'L' => changed { others := .lower } { others := .lower }
      | 'E' => changed {} {}
      | 'u' => changed { later with first := .upper } later
      | 'l' => changed { later with first := .lower } later
      | _ =>
        { part with text := before ++ [c] } :: replacementParts isStrict [] later later rest
  | '&' :: rest =>
    { text := before, group := some 0, change } :: replacementParts isStrict [] later later rest
  | c :: rest => replacementParts isStrict (before ++ [c]) change later rest
  | [] => if before.isEmpty then [] else [{ text := before, group := none, change }]

/-- A substitution that is being read, with the flags of its expression. -/
structure Flagged where
  substitution : Substitution
  flags : ExpressionFlags := {}
  hasNumber : Bool := false

/-- Takes the flags of a substitution. The first argument bounds them. -/
def takeFlags : Nat → Flagged → Reading Flagged
  | 0, flagged => pure flagged
  | bound + 1, flagged => do
    let s := flagged.substitution
    let withFlag (s : Substitution) : Reading Flagged :=
      takeFlags bound { flagged with substitution := s }
    let _ ← takeWhile isBlank
    match ← peek with
    | none => return flagged
    | some '\x7d' => return flagged
    | some '#' => return flagged
    | some c => do
      drop 1
      match c with
      | '\n' => return flagged
      | ';' => return flagged
      | '\r' => if (← take) = some '\n' then return flagged else refuse .unknownFlag
      | 'g' => if s.everywhere then refuse .twoGlobals else withFlag { s with everywhere := true }
      | 'p' =>
        if s.prints.before || s.prints.after then refuse .twoPrints
        else withFlag { s with prints := { before := !s.runs, after := s.runs } }
      | 'w' => return { flagged with substitution := { s with target := some (← takeTarget) } }
      | c => do
        if "eiImM".toList.contains c then
          if (← get).settings.isStrict then refuse .unknownFlag
          else if c = 'e' then withFlag { s with runs := true }
          else
            let flags :=
              if c.toLower = 'i' then { flagged.flags with anyCase := true }
              else { flagged.flags with perLine := true }
            takeFlags bound { flagged with flags }
        else if c.isDigit then
          if flagged.hasNumber then refuse .twoNumbers
          else
            let digits ← takeWhile Char.isDigit
            match Number.ofDigits 10 (c :: digits) with
            | 0 => refuse .zeroNumber
            | occurrence =>
              takeFlags bound
                { flagged with substitution := { s with occurrence }, hasNumber := true }
        else refuse .unknownFlag

/-- Works out the escapes of a text, or refuses the script. -/
def meaning (use : TextUse) (text : Chars) : Reading Chars :=
  match escaped use text with
  | .ok meant => pure meant
  | .error fault => refuse fault

/-- Refuses commands that a confined script may not have. -/
def refuseIfConfined : Reading Unit := do
  if (← get).settings.isConfined then refuse .confined

/-- Takes a substitution. -/
def takeSubstitution : Reading Action := do
  let delimiter ← take
  let pattern ← takeDelimited true delimiter .openSubstitution
  let replacement ← takeDelimited false delimiter .openSubstitution
  let meant ← meaning .replacement replacement
  let parts := replacementParts (← get).settings.isStrict [] {} {} meant
  let start : Flagged := { substitution := { matcher := none, replacement := parts } }
  let flagged ← takeFlags ((← get).rest.length + 1) start
  let found ← matcher pattern flagged.flags flagged.substitution.groups
  if flagged.substitution.runs || flagged.substitution.target.isSome then refuseIfConfined
  return .substitute { flagged.substitution with matcher := found }

/-- Takes the two texts of which the characters are put for one another. -/
def takeTransliteration : Reading Action := do
  let delimiter ← take
  let source ← takeDelimited false delimiter .openTransliteration
  let source ← meaning .transliteration source
  let target ← takeDelimited false delimiter .openTransliteration
  let target ← meaning .transliteration target
  let (source, target) := (exchanged source, exchanged target)
  if source.length ≠ target.length then refuse .unequalLengths
  -- The last entry of a character counts.
  let table := (source.zip target).reverse
  takeEnd
  return .transliterate table

/-- A text that is put beside lines, as far as it goes in this part. It is unfinished if the part
ends with a backslash. -/
structure AddedText where
  text : Chars
  rest : Chars
  isUnfinished : Bool

/-- The text up to the end of a line; a newline behind a backslash belongs to it. -/
def addedText : Chars → AddedText
  | [] => { text := ['\n'], rest := [], isUnfinished := false }
  | ['\\'] => { text := ['\n'], rest := [], isUnfinished := true }
  | '\\' :: c :: rest =>
    let found := addedText rest
    { found with text := '\\' :: c :: found.text }
  | '\n' :: rest => { text := ['\n'], rest, isUnfinished := false }
  | c :: rest =>
    let found := addedText rest
    { found with text := c :: found.text }

/-- The action with another text. -/
def withText (action : Action) (text : Chars) : Action :=
  match action with
  | .append _ => .append text
  | .insert _ => .insert text
  | .change _ => .change text
  | .execute _ => .execute (some text)
  | action => action

/-- Takes a text that is put beside lines by some command, after what has been read of it. The
answer is the text as far as it is known. -/
def takeAdded (command : Nat) (before : Chars) : Reading Chars := do
  let draft ← get
  let found := addedText draft.rest
  drop (draft.rest.length - found.rest.length)
  let text := before ++ found.text
  if found.isUnfinished then
    modify fun draft => { draft with unfinished := some { command, text } }
    return text
  else
    modify fun draft => { draft with unfinished := none }
    return bared (← meaning .added text)

/-- Takes the text of a command that puts it beside lines. -/
def takeText (command : Nat) : Reading Chars := do
  let _ ← takeWhile isBlank
  match ← peek with
  | none => refuse .noText
  | some '\\' => do
    drop 1
    match ← peek with
    | none => do
      modify fun draft => { draft with unfinished := some { command, text := [] } }
      return []
    | some '\n' => do
      drop 1
      takeAdded command []
    | some _ => takeAdded command []
  | some _ => do
    if (← get).settings.isStrict then
      drop 1
      refuse .noText
    takeAdded command []

/-- Takes the number behind a command, if there is one. -/
def takeOptionalNumber : Reading (Option Nat) := do
  let _ ← takeWhile isBlank
  if (← peek).any Char.isDigit && !(← get).settings.isStrict then return some (← takeNumber)
  else return none

/-- Whether a version is later than another one. Numbers without zeros before them count as numbers;
all else counts character by character. -/
def isLaterVersion (version other : Chars) : Bool :=
  let same := ((version.zip other).takeWhile fun (c, d) => c = d).length
  let digits := ((version.take same).reverse.takeWhile Char.isDigit).reverse
  let (version, other) := (version.drop same, other.drop same)
  let size (rest : Chars) : Nat := (rest.takeWhile Char.isDigit).length
  let isNumber (rest : Chars) : Bool :=
    (digits ++ rest).head?.any fun c => c.isDigit && c ≠ '0'
  let isDigitAt (rest : Chars) : Bool := rest.head?.any Char.isDigit
  let codeAt (rest : Chars) : Nat := (rest.head?.map Char.toNat).getD 0
  if isNumber version && isNumber other && size version ≠ size other then size other < size version
  else if !digits.isEmpty && digits.all (· = '0') && !isNumber version && !isNumber other
      && (isDigitAt version || isDigitAt other) then
    -- After zeros a digit comes before anything else.
    !isDigitAt version || (isDigitAt other && codeAt other < codeAt version)
  else codeAt other < codeAt version

/-- The version of which all commands are known. -/
def knownVersion : Chars := Text.spell "4.9"

/-- Whether a command is not known everywhere. -/
def isUnusual (c : Char) : Bool := "eFvzQTRW".toList.contains c

/-- Takes a command of this letter without its end: what it does. -/
def takeAction (command : Command) (letter : Char) : Reading Action := do
  let number := (← get).commands.size
  let simple (action : Action) : Reading Action := do
    takeEnd
    return action
  let jump (action : Nat → Action) : Reading Action := do
    let label ← takeLabel
    modify fun draft => { draft with jumps := (number, label) :: draft.jumps }
    return action 0
  let confined (action : Reading Action) : Reading Action := do
    refuseIfConfined
    action
  if (← get).settings.isStrict then
    if isUnusual letter then refuse (.unknownCommand letter)
    if command.last.isSome && "ail=r".toList.contains letter then refuse .tooManyAddresses
  match letter with
  | '\x7b' => do
    modify fun draft =>
      { draft with
        blocks := { command := number, origin := draft.origin, line := draft.line }
          :: draft.blocks }
    return .block 0
  | '\x7d' => do
    match (← get).blocks with
    | [] => refuse .unopenedBlock
    | block :: blocks => do
      if command.first.isSome then refuse .addressedClose
      takeEnd
      modify fun draft =>
        { draft with
          blocks
          commands := draft.commands.modify block.command fun c =>
            { c with action := .block number } }
      return .nothing
  | 'e' => confined do
    let _ ← takeWhile isBlank
    match ← peek with
    | none => return .execute none
    | some '\n' => do
      drop 1
      return .execute none
    | some _ => return .execute (some (← takeAdded number []))
  | 'a' => return .append (← takeText number)
  | 'i' => return .insert (← takeText number)
  | 'c' => return .change (← takeText number)
  | ':' => do
    if command.first.isSome then refuse .addressedLabel
    let label ← takeLabel
    if label.isEmpty then refuse .noLabel
    modify fun draft => { draft with labels := (label, number) :: draft.labels }
    return .nothing
  | 'b' => jump .jump
  | 't' => jump .jumpIfReplaced
  | 'T' => jump .jumpUnlessReplaced
  | 'q' => do
    if command.last.isSome then refuse .tooManyAddresses
    let code ← takeOptionalNumber
    simple (.quit true (code.getD 0))
  | 'Q' => do
    if command.last.isSome then refuse .tooManyAddresses
    let code ← takeOptionalNumber
    simple (.quit false (code.getD 0))
  | 'l' => do simple (.list (← takeOptionalNumber))
  | 'r' => confined do
    let name ← takeFileName
    return if command.isBeforeAll then .printFile name else .readFile name
  | 'R' => confined do return .readLine (← takeFileName)
  | 'w' => confined do return .write (← takeTarget)
  | 'W' => confined do return .writeFirst (← takeTarget)
  | 's' => takeSubstitution
  | 'y' => takeTransliteration
  | '=' => simple .printNumber
  | 'd' => simple .delete
  | 'D' => simple .deleteFirst
  | 'F' => simple .printFileName
  | 'g' => simple .get
  | 'G' => simple .getMore
  | 'h' => simple .hold
  | 'H' => simple .holdMore
  | 'n' => simple .next
  | 'N' => simple .nextMore
  | 'p' => simple .print
  | 'P' => simple .printFirst
  | 'z' => simple .clear
  | 'x' => simple .exchange
  | letter => refuse (.unknownCommand letter)

/-- Adds a command. -/
def addCommand (command : Command) : Reading Unit :=
  modify fun draft => { draft with commands := draft.commands.push command }

/-- Takes a comment after its mark. At the very start of a script it may ask for silence. -/
def takeComment (command : Command) : Reading Unit := do
  if command.first.isSome then refuse .addressedComment
  let draft ← get
  if draft.isFirst && draft.taken = 1 && (← peek) = some 'n' then
    modify fun draft => { draft with isQuiet := true }
  let _ ← takeWhile (· ≠ '\n')
  drop 1

/-- Takes a command that begins with a character. -/
def takeCommand (c : Char) : Reading Unit := do
  let (command, c) ← takeAddresses (some c)
  let (command, c) ←
    if c = some '!' then do
      let c ← takeNonblank
      if c = some '!' then refuse .twoNegations
      pure ({ command with negated := true }, c)
    else pure (command, c)
  match c with
  | none => refuse .noCommand
  | some '#' => takeComment command
  | some 'v' => do
    if (← get).settings.isStrict then refuse (.unknownCommand 'v')
    if isLaterVersion (← takeLabel) knownVersion then refuse .newerVersion
    modify fun draft => { draft with settings := { draft.settings with isStrict := false } }
  | some letter => do
    let action ← takeAction command letter
    let first := if command.isBeforeAll then some (.line 1) else command.first
    addCommand { command with first, action }

/-- Takes all commands of a part. The first argument bounds them. -/
def takeCommands : Nat → Reading Unit
  | 0 => pure ()
  | bound + 1 => do
    let _ ← takeWhile isGap
    match ← take with
    | none => return
    | some c => do
      takeCommand c
      takeCommands bound

/-- Reads one more part. A text that was unfinished goes on in it. -/
def readPart : Reading Unit := do
  if let some unfinished := (← get).unfinished then
    let text ← takeAdded unfinished.command unfinished.text
    modify fun draft =>
      { draft with
        commands := draft.commands.modify unfinished.command fun c =>
          { c with action := withText c.action text } }
  takeCommands ((← get).rest.length + 1)

/-- Leads a command elsewhere in the script. -/
def leadTo (goal : Nat) (command : Command) : Command :=
  let action :=
    match command.action with
    | .jump _ => .jump goal
    | .jumpIfReplaced _ => .jumpIfReplaced goal
    | .jumpUnlessReplaced _ => .jumpUnlessReplaced goal
    | action => action
  { command with action }

/-- Leads commands to their labels, or to the end of the script. -/
def leadAll : List (Nat × Chars) → Reading Unit
  | [] => pure ()
  | (command, label) :: rest => do
    let draft ← get
    let goal ←
      if label.isEmpty then pure draft.commands.size
      else
        match draft.labels.lookup label with
        | some goal => pure goal
        | none => throw (.noLabel label)
    modify fun draft => { draft with commands := draft.commands.modify command (leadTo goal) }
    leadAll rest

/-- Finishes a script of which all parts have been read. -/
def finish : Reading Unit := do
  let draft ← get
  if let block :: _ := draft.blocks then
    modify fun draft => { draft with origin := block.origin, line := block.line, taken := 0 }
    refuse .openBlock
  leadAll draft.jumps

end Reading

namespace Draft

/-- A draft with one more part to be read. -/
def withPart (draft : Draft) (origin : Origin) (text : Chars) : Draft :=
  let line :=
    match origin with
    | .argument _ => 0
    | .file _ => 1
  { draft with origin, rest := text, taken := 0, line }

/-- A draft of which a part has been read. -/
def afterPart (draft : Draft) : Draft := { draft with isFirst := false, taken := 0 }

/-- What is said of a script that is refused at some place. -/
def complaint (draft : Draft) (fault : ScriptFault) : Chars :=
  let place : Chars :=
    match draft.origin with
    | .argument number =>
      Text.spell s!"-e expression #{number}, char {draft.taken}: "
    | .file name =>
      Text.spell "file " ++ name ++ Text.spell s!" line {draft.line}: "
  place ++ fault.text

end Draft

end Dialogue.LineEditor
