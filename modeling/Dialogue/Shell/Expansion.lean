import Dialogue.Shell.Arithmetic
import Dialogue.Shell.Names

/-!
Working out words: parameters, the output of commands, arithmetic, and the homes that a tilde stands
for. What comes of a word is a list of segments, which are then split into fields or put together.
-/

namespace Dialogue

namespace Machine

/-- The users of every machine, with their homes. -/
def accounts : List (String × String) :=
  [("root", "/root"), ("daemon", "/usr/sbin"), ("bin", "/bin"), ("sys", "/dev"), ("sync", "/bin"),
    ("games", "/usr/games"), ("man", "/var/cache/man"), ("lp", "/var/spool/lpd"),
    ("mail", "/var/mail"), ("news", "/var/spool/news"), ("uucp", "/var/spool/uucp"),
    ("proxy", "/bin"), ("www-data", "/var/www"), ("backup", "/var/backups"),
    ("list", "/var/list"), ("irc", "/run/ircd"), ("_apt", "/nonexistent"),
    ("nobody", "/nonexistent")]

/-- The home of a user. -/
def home? (user : Chars) : Option Chars :=
  (accounts.find? fun account => account.1.toList == user).map fun account => account.2.toList

end Machine

namespace Shell

open Activity

/-- What a word is worked out for. -/
structure Manner where
  /-- It will be split into fields, and they will be matched against the names of files. -/
  isSplit : Bool := false
  /-- It stands between double quotes. -/
  isQuoted : Bool := false
  /-- What is not quoted in it is split too, and not only what is worked out. -/
  splitsText : Bool := false
  /-- A tilde at its start stands for a home. -/
  tilde : Bool := false
  /-- So does a tilde after a colon. -/
  tildes : Bool := false

/-- Runs a command, and then ends the process. -/
abbrev Runner := Command → Activity Unit

/-- A text that was worked out, as glyphs. -/
def glyphsOf (quoted : Bool) (text : Chars) : List Glyph :=
  text.map fun c => if quoted && isGuarded c then .escaped c else .plain c

/-- What a tilde at the start of some parts stands for, and the parts after it. -/
def homeOf (s : State) (tildes : Bool) : List Part → Option (Chars × List Part)
  | .plain '~' :: rest =>
    -- The name of the user, if nothing in it is quoted or to be worked out.
    let rec userName : List Part → Option (Chars × List Part)
      | [] => some ([], [])
      | .plain c :: rest =>
        if c = '/' || (tildes && c = ':') then some ([], .plain c :: rest)
        else (userName rest).map fun (name, rest) => (c :: name, rest)
      | _ :: _ => none
    match userName rest with
    | none => none
    | some (name, rest) =>
      let home := if name = [] then s.value? "HOME" else Machine.home? name
      home.map (·, rest)
  | _ => none

/-- Characters that stand for themselves at the start of some parts, up to a colon if the flag says
so, and the parts after them. -/
def plainRun (toColon : Bool) : List Part → Chars × List Part
  | .plain c :: rest =>
    if toColon && c = ':' then ([c], rest)
    else
      let (run, rest) := plainRun toColon rest
      (c :: run, rest)
  | rest => ([], rest)

/-- What stands between arguments that are put together, if anything does. -/
def argumentSeparator (s : State) (split quoted : Bool) : Chars :=
  if split && !quoted then if (s.value? "IFS").isSome then [argumentGap] else [' ']
  else
    match s.value? "IFS" with
    | some separators => separators.take 1
    | none => [' ']

/-- Texts with another text between them. -/
def joinWith (separator : Chars) : List Chars → Chars
  | [] => []
  | [text] => text
  | text :: rest => text ++ separator ++ joinWith separator rest

/-- The value of a parameter, if it is set. The flag says that it will be split into fields. -/
def parameter? (s : State) (split quoted : Bool) (name : Chars) : Option Chars :=
  match name with
  | ['$'] => some (Text.decimal s.id)
  | ['?'] => some (Text.decimal s.status)
  | ['#'] => some (Text.decimal s.arguments.list.length)
  | ['!'] => s.lastBackground.map Text.decimal
  | ['-'] => some s.optionLetters
  | ['@'] =>
    let separator := if split && quoted then [argumentGap] else argumentSeparator s split quoted
    some (joinWith separator s.arguments.list)
  | ['*'] => some (joinWith (argumentSeparator s split quoted) s.arguments.list)
  | c :: _ =>
    if c.isDigit then
      match ((Text.integer? name).getD 0).toNat with
      | 0 => some s.name
      | n + 1 => s.arguments.list[n]?
    else s.get? name
  | [] => none

/-- The text up to the first gap between arguments. -/
def firstArgument (text : Chars) : Chars := text.takeWhile (· ≠ argumentGap)

/-- A text without what a pattern matches at its start or at its end. -/
def trimmed (atStart longest : Bool) (pattern : Pattern) (text : Chars) : Chars :=
  let cuts := List.range (text.length + 1)
  -- What is looked at goes only as far as the first argument in it.
  let fits (cut : Nat) : Bool :=
    Pattern.matches pattern (firstArgument (if atStart then text.take cut else text.drop cut))
  let fromLeft := cuts.takeWhile (· ≤ (firstArgument text).length)
  let cut? := if atStart = longest then cuts.reverse.find? fits else fromLeft.find? fits
  match cut? with
  | some cut => if atStart then text.drop cut else text.take cut
  | none => text

/-- The complaint about a parameter that is not set. -/
def notSet (name : Chars) (orEmpty : Bool) : Chars :=
  name ++ Text.spell (if orEmpty then ": parameter not set or null" else ": parameter not set")

/-- Reads the output of a command: what was written to a pipe until nobody can write to it any
more. -/
def outputOf (run : Runner) (command : Command) : Activity Chars := do
  let (reading, writing) ← ask Program.pipe
  let child ← fork do
    ask (Program.close reading)
    if writing ≠ 1 then
      let _ ← ask (Program.duplicate writing 1)
      ask (Program.close writing)
    run command
  ask (Program.close writing)
  let octets ← ask (Tool.readAll reading Tool.mostReads [])
  ask (Program.close reading)
  let status ← waitFor child
  modify fun s => { s with substituted := status }
  let text := (Text.ofOctets (octets.toOption.getD [])).filter (· ≠ '\x00')
  return (text.reverse.dropWhile (· = '\n')).reverse

/-- The value of an expression, as it is written. -/
def arithmeticValue (expression : Chars) : Activity Chars := do
  match Arithmetic.evaluate (← state) expression with
  | .ok (value, s) => do
    modify fun _ => s
    return Text.decimalInt value.toInt
  | .error (.invalid complaint) =>
    fail (Text.spell s!"arithmetic expression: {complaint}: \"" ++ expression ++ ['"'])
  | .error (.notNumber text) => badNumber text
  | .error (.readonly name) => fail (name ++ Text.spell ": is read only")
  | .error .overflow => do
    let (id, _) ← ask Program.identity
    let _ ← ask (Program.kill id 8)
    raise .told

mutual

/-- Works out the parts of a word. The first argument bounds the depth, as in what follows; the
flags are whether quotes are open and whether a tilde may stand for a home here. -/
def expandParts (run : Runner) : Nat → Manner → Bool → Bool → List Part → Activity (List Segment)
  | 0, _, _, _, _ => pure []
  | _, _, _, _, [] => pure []
  | depth + 1, manner, open?, tilde, parts => do
    let s ← state
    match if tilde then homeOf s manner.tildes parts else none with
    | some (home, rest) =>
      let segment : Segment := { glyphs := glyphsOf true home }
      return segment :: (← expandParts run depth manner open? false rest)
    | none =>
      let quoted := manner.isQuoted || open?
      match parts with
      | [] => return []
      | .plain c :: rest =>
        let (text, rest) := plainRun manner.tildes (.plain c :: rest)
        let splitting : Splitting := if manner.splitsText && !quoted then .fields else .none
        let segment : Segment := { glyphs := text.map .plain, splitting }
        let tilde := manner.tildes && text.getLast? = some ':'
        return segment :: (← expandParts run depth manner open? tilde rest)
      | .escaped c :: rest =>
        let segment : Segment := { glyphs := [.escaped c] }
        return segment :: (← expandParts run depth manner open? false rest)
      | .quote :: .parameter ['@'] .plain false [] :: .quote :: rest =>
        -- Nothing is left of the quotes around all arguments.
        if open? then
          let segment : Segment := { glyphs := [.mark] }
          let after := .parameter ['@'] .plain false [] :: .quote :: rest
          return segment :: (← expandParts run depth manner false false after)
        else
          let segments ← expandParameter run depth manner true ['@'] .plain false []
          return segments ++ (← expandParts run depth manner open? false rest)
      | .quote :: rest =>
        let segment : Segment := { glyphs := [.mark] }
        return segment :: (← expandParts run depth manner (!open?) false rest)
      | .parameter name form emptyToo word :: rest =>
        let segments ← expandParameter run depth manner quoted name form emptyToo word
        return segments ++ (← expandParts run depth manner open? false rest)
      | .output command :: rest =>
        let text ←
          match command with
          | some command => outputOf run command
          | none => pure []
        let splitting : Splitting := if quoted then .none else .fields
        let segment : Segment := { glyphs := glyphsOf quoted text, splitting }
        return segment :: (← expandParts run depth manner open? false rest)
      | .arithmetic expression :: rest =>
        let segments ← expandParts run depth {} false false expression
        let text ← arithmeticValue (Segment.text segments)
        let splitting : Splitting := if quoted then .none else .fields
        let segment : Segment := { glyphs := glyphsOf quoted text, splitting }
        return segment :: (← expandParts run depth manner open? false rest)

/-- Works out a parameter. -/
def expandParameter (run : Runner) :
    Nat → Manner → Bool → Chars → Form → Bool → List Part → Activity (List Segment)
  | 0, _, _, _, _, _, _ => pure []
  | depth + 1, manner, quoted, name, form, emptyToo, word => do
    let s ← state
    let counts := form = .length ∨ form = .ifSet
    let value := parameter? s (manner.isSplit && !counts) quoted name
    let isAbsent := value.isNone || (emptyToo && value = some [])
    let record (text : Chars) : Activity (List Segment) := do
      let splitting : Splitting :=
        if !quoted then .fields
        else if name = ['@'] && !s.arguments.list.isEmpty then .arguments
        else .none
      return [{ glyphs := glyphsOf quoted text, splitting }]
    let inPlace : Activity (List Segment) :=
      expandParts run depth { manner with isQuoted := quoted, splitsText := true, tilde := true }
        false true word
    let checked (present : Chars → Activity (List Segment)) : Activity (List Segment) := do
      match value with
      | some text => present text
      | none => if s.has .nounset then fail (notSet name false) else return []
    match form with
    | .illegal => failText "Bad substitution"
    | .ifSet => if isAbsent then return [] else inPlace
    | .orElse => if isAbsent then inPlace else record (value.getD [])
    | .orAssign =>
      if isAbsent then
        let text := Segment.text (← expandParts run depth {} false true word)
        assignChecked name text
        record text
      else record (value.getD [])
    | .orFail =>
      if isAbsent then
        let text := Segment.text (← expandParts run depth {} false true word)
        if word.isEmpty then fail (notSet name emptyToo)
        else fail (name ++ Text.spell ": " ++ text)
      else record (value.getD [])
    | .plain => checked record
    | .length =>
      if value.isNone && s.has .nounset then fail (notSet name false)
      else record (Text.decimal (value.getD []).length)
    | .trim atStart longest =>
      checked fun text => do
        let segments ← expandParts run depth {} false true word
        record (trimmed atStart longest (Segment.pattern segments) text)

end

/-- How deep words may stand in one another, and how long they may be. -/
def wordDepth : Nat := 100000000

/-- Works out a word in some manner. -/
def expand (run : Runner) (manner : Manner) (word : Word) : Activity (List Segment) :=
  expandParts run wordDepth manner false manner.tilde word

/-- Works out a word as one text, which is not split. -/
def expandText (run : Runner) (word : Word) : Activity Chars := do
  return Segment.text (← expand run { tilde := true } word)

/-- Works out the value of an assignment. -/
def expandValue (run : Runner) (word : Word) : Activity Chars := do
  return Segment.text (← expand run { tilde := true, tildes := true } word)

/-- Works out a word as a pattern. -/
def expandPattern (run : Runner) (word : Word) : Activity Pattern := do
  return Segment.pattern (← expand run { tilde := true } word)

/-- Works out a text in the script. -/
def expandHereText (run : Runner) (text : HereText) : Activity Chars := do
  if text.isExpanded then return Segment.text (← expand run { isQuoted := true } text.word)
  else return plainText text.word

/-- Works out a word as the words that it comes to. -/
def expandWord (run : Runner) (word : Word) : Activity (List Chars) := do
  let segments ← expand run { isSplit := true, tilde := true } word
  wordsOf (fieldsOf (← state).separators none segments)

end Shell

end Dialogue
