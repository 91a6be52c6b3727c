import Dialogue.Number.Layout
import Dialogue.Tool.Quoting
import Dialogue.Tool.Stream

/-!
Printing arguments: `echo`, which joins them with blanks, and `printf`, which fills them into a
format as often as there are arguments left.
-/

namespace Dialogue.Tool

/-- Arguments with blanks between them. -/
def joined (arguments : List Chars) : Chars := (arguments.intersperse [' ']).flatten

/-- What comes of an escape. -/
inductive Escaped
  | text (text rest : Chars)
  /-- The output ends here. -/
  | ending
  | fault (complaint : String)

/-- What is printed for a character that only a larger set of characters has. -/
def wideCharacter (n : Nat) : Chars :=
  let digits := (Nat.toDigits 16 n).map Char.toUpper
  let fill (least : Nat) : Chars := List.replicate (least - digits.length) '0' ++ digits
  if n < 0x80 then [Char.ofNat n] else if n < 0x10000 then '\\' :: 'u' :: fill 4
  else '\\' :: 'U' :: fill 8

/-- What an escape comes to; the backslash has been taken off. The flag says that octal digits stand
behind a zero that does not count. -/
def printedEscape (afterZero : Bool) (text : Chars) : Escaped :=
  let hexMissing : Escaped := .fault "missing hexadecimal number in escape"
  let wide (letter : Char) (most : Nat) (rest : Chars) : Escaped :=
    match takeSome (Number.isDigitOf 16) most rest with
    | (digits, rest) =>
      let n := Number.ofDigits 16 digits
      if digits.length < most then hexMissing
      else if 0xd800 ≤ n ∧ n ≤ 0xdfff then
        .fault ("invalid universal character name \\" ++ String.ofList (letter :: digits))
      else .text (wideCharacter n) rest
  let octal (text : Chars) : Option Escaped :=
    (octetEscape? 8 3 text).map fun (c, rest) => .text [c] rest
  match text with
  | [] => .text ['\\'] []
  | 'c' :: _ => .ending
  | '"' :: rest => .text ['"'] rest
  | 'x' :: rest =>
    match octetEscape? 16 2 rest with
    | some (c, rest) => .text [c] rest
    | none => hexMissing
  | 'u' :: rest => wide 'u' 4 rest
  | 'U' :: rest => wide 'U' 8 rest
  | c :: rest =>
    match letterEscape? c with
    | some letter => .text [letter] rest
    | none =>
      if c = '0' && afterZero then (octal rest).getD (.text ['\x00'] rest)
      else (octal text).getD (.text ['\\', c] rest)

/-- A piece of what `printf` does. -/
inductive Printed
  | text (text : Chars)
  | complaint (text : Chars)

/-- How `printf` ends before the format does. -/
inductive PrintEnd
  | asked
  | fault (complaint : Chars)

/-- What `printf` has done so far. -/
structure Printing where
  /-- The latest first. -/
  pieces : List Printed := []
  arguments : List Chars
  hasUsed : Bool := false
  hasFailed : Bool := false
  ending : Option PrintEnd := none

namespace Printing

/-- Prints a text. -/
def add (p : Printing) (text : Chars) : Printing := { p with pieces := .text text :: p.pieces }

/-- Complains about an argument. -/
def complain (p : Printing) (text : Chars) : Printing :=
  { p with pieces := .complaint text :: p.pieces }

/-- Ends because of something that is wrong. -/
def refuse (p : Printing) (complaint : Chars) : Printing :=
  { p with ending := some (.fault complaint) }

/-- The next argument, if there is one left. -/
def next (p : Printing) : Option Chars × Printing :=
  match p.arguments with
  | [] => (none, p)
  | argument :: rest => (some argument, { p with arguments := rest, hasUsed := true })

/-- Complains about an argument that should be a number, if there is reason to. -/
def check (p : Printing) (argument rest : Chars) (isNumber isHeld : Bool) : Printing :=
  let complain (text : String) : Printing :=
    { p.complain (quoted argument ++ Text.spell text) with hasFailed := true }
  if isHeld then complain ": Numerical result out of range"
  else if rest != [] then
    complain (if isNumber then ": value not completely converted"
      else ": expected a numeric value")
  else p

/-- The number of a character behind a quote, if an argument is one. What follows is warned of. -/
def character? (argument : Chars) (p : Printing) : Option (Nat × Printing) :=
  let found (c : Char) (rest : Chars) : Option (Nat × Printing) :=
    let warning := Text.spell "warning: " ++ rest
      ++ Text.spell ": character(s) following character constant have been ignored"
    some (c.toNat, if rest = [] then p else p.complain warning)
  match argument with
  | '"' :: c :: rest => found c rest
  | '\'' :: c :: rest => found c rest
  | _ => none

/-- The whole number that an argument is, with a sign or without. -/
def whole (signed : Bool) (argument : Chars) (p : Printing) : Int × Printing :=
  match character? argument p with
  | some (n, p) => (n, p)
  | none =>
    let found :=
      if signed then Number.whole64? none argument else Number.word64? none argument
    match found with
    | some found => (found.value, p.check argument found.rest true found.isHeld)
    | none => (0, p.check argument argument false false)

/-- The floating number that an argument is. -/
def float (argument : Chars) (p : Printing) : Number.Floating × Printing :=
  match character? argument p with
  | some (n, p) => (.ofInt .extended n, p)
  | none =>
    match Number.float? .extended argument with
    | some found => (found.value, p.check argument found.rest true found.isHeld)
    | none => (.zero false, p.check argument argument false false)

/-- Prints a text with its escapes worked out. The first argument bounds its characters. -/
def addEscaped : Nat → Chars → Printing → Printing
  | 0, _, p => p
  | _, [], p => p
  | bound + 1, '\\' :: rest, p =>
    match printedEscape true rest with
    | .text text rest => addEscaped bound rest (p.add text)
    | .ending => { p with ending := some .asked }
    | .fault complaint => p.refuse (Text.spell complaint)
  | bound + 1, c :: rest, p =>
    let run := rest.takeWhile (· ≠ '\\')
    addEscaped bound (rest.drop run.length) (p.add (c :: run))

end Printing

/-- The conversions that are known. -/
def conversions : Chars := "aAcdeEfFgGiosuxX".toList

/-- The conversions that a flag, or a precision, makes no sense with. -/
def senseless : Char → Chars
  | '\'' => "aAceEosxX".toList
  | 'I' => "aAceEosxX".toList
  | '#' => "cdisu".toList
  | '0' => "cs".toList
  | '.' => ['c']
  | _ => []

/-- A layout with one more flag. -/
def withFlag (layout : Number.Layout) : Char → Number.Layout
  | '-' => { layout with left := true }
  | '+' => { layout with plus := true }
  | ' ' => { layout with space := true }
  | '#' => { layout with alternate := true }
  | '0' => { layout with zeros := true }
  | _ => layout

/-- A size at the start of a text: digits, or a star for the next argument. The name is what it is
called if it is too great. -/
def takeSize (name : String) (text : Chars) (p : Printing) : Option Int × Chars × Printing :=
  match text with
  | '*' :: rest =>
    match p.next with
    | (none, p) => (some 0, rest, p)
    | (some argument, p) =>
      let (n, p) := p.whole true argument
      let isTooLow : Bool := name = "field width" ∧ n < -2147483648
      if isTooLow || 2147483647 < n then
        (none, rest, p.refuse (Text.spell s!"invalid {name}: " ++ quoted argument))
      else (some n, rest, p)
  | text =>
    let digits := text.takeWhile Char.isDigit
    (if digits = [] then none else some (Number.ofDigits 10 digits : Nat),
      text.dropWhile Char.isDigit, p)

/-- Fills the next argument into a conversion of a letter. -/
def fillArgument (layout : Number.Layout) (letter : Char) (p : Printing) : Printing :=
  let (argument, p) := p.next
  let text := argument.getD []
  if letter = 's' then p.add (layout.text text)
  else if letter = 'c' then p.add (layout.fill [text.headD '\x00'])
  else if letter = 'd' || letter = 'i' then
    let (n, p) := p.whole true text
    p.add (layout.signed n)
  else if "ouxX".toList.contains letter then
    let (n, p) := p.whole false text
    p.add (layout.unsigned letter n.toNat)
  else
    let (value, p) := p.float text
    p.add (layout.floating .extended letter value)

/-- Fills a conversion, whose text without the sign is given, and returns what follows it. -/
def fillConversion (text : Chars) (p : Printing) : Printing × Chars :=
  match text with
  | '%' :: rest => (p.add ['%'], rest)
  | 'b' :: rest =>
    let (argument, p) := p.next
    let text := argument.getD []
    (p.addEscaped (text.length + 1) text, rest)
  | 'q' :: rest =>
    match p.next with
    | (some argument, p) => (p.add (shellQuoted false false argument), rest)
    | (none, p) => (p, rest)
  | text =>
    let isFlag (c : Char) : Bool := "I'-+ #0".toList.contains c
    let flags := text.takeWhile isFlag
    let layout := flags.foldl withFlag {}
    let (width, rest, p) := takeSize "field width" (text.dropWhile isFlag) p
    let layout :=
      match width with
      | none => layout
      | some n => { layout with width := n.natAbs, left := layout.left || n < 0 }
    let (layout, flags, rest, p) :=
      match rest, p.ending with
      | '.' :: rest, none =>
        let (precision, rest, p) := takeSize "precision" rest p
        let n := precision.getD 0
        ({ layout with precision := if n < 0 then none else some n.toNat }, '.' :: flags, rest, p)
      | rest, _ => (layout, flags, rest, p)
    let rest := rest.dropWhile fun c => "lLhjtz".toList.contains c
    let letter := rest.headD '\x00'
    let after := rest.drop 1
    if p.ending.isSome then (p, after)
    else if !conversions.contains letter || flags.any fun flag => (senseless flag).contains letter
    then
      let shown := '%' :: text.take (text.length - after.length)
      (p.refuse (shown ++ Text.spell ": invalid conversion specification"), [])
    else (fillArgument layout letter p, after)

/-- Fills a format once. The first argument bounds its characters. -/
def fillFormat : Nat → Chars → Printing → Printing
  | 0, _, p => p
  | bound + 1, format, p =>
    if p.ending.isSome then p
    else
      match format with
      | [] => p
      | '\\' :: rest =>
        match printedEscape false rest with
        | .text text rest => fillFormat bound rest (p.add text)
        | .ending => { p with ending := some .asked }
        | .fault complaint => p.refuse (Text.spell complaint)
      | '%' :: rest =>
        let (p, rest) := fillConversion rest p
        fillFormat bound rest p
      | c :: rest =>
        let run := rest.takeWhile fun c => c != '\\' && c != '%'
        fillFormat bound (rest.drop run.length) (p.add (c :: run))

/-- Fills a format as often as arguments are left that it uses. The first argument bounds how
often. -/
def fillFormats (format : Chars) : Nat → Printing → Printing
  | 0, p => p
  | bound + 1, p =>
    let p := fillFormat (format.length + 1) format p
    if p.ending.isSome || !p.hasUsed || p.arguments.isEmpty then p
    else fillFormats format bound p

/-- The text of a piece, if it is one. -/
def Printed.text? : Printed → Option Chars
  | .text shown => some shown
  | .complaint _ => none

/-- Does what `printf` has done: what was printed is written before the next complaint. The first
argument bounds the complaints. -/
def playPieces (name : Chars) : Nat → List Printed → (Unit → Program) → Program
  | 0, _, next => next ()
  | bound + 1, pieces, next =>
    let texts := (pieces.map Printed.text?).takeWhile Option.isSome
    print name (texts.filterMap id).flatten fun _ =>
      match pieces.drop texts.length with
      | .complaint complaint :: rest =>
        complain name complaint fun _ => playPieces name bound rest next
      | _ => next ()

/-- Prints arguments in a format. -/
def printf (name : Chars) (arguments : List Chars) : Program :=
  let arguments := if arguments.head? = some ['-', '-'] then arguments.drop 1 else arguments
  match arguments with
  | [] => askForHelp name (Text.spell "missing operand")
  | format :: arguments =>
    let p := fillFormats format (arguments.length + 1) { arguments }
    let p :=
      match p.ending, p.arguments with
      | none, first :: _ =>
        p.complain (Text.spell "warning: ignoring excess arguments, starting with " ++ quoted first)
      | some (.fault complaint), _ => p.complain complaint
      | _, _ => p
    let code :=
      match p.ending with
      | some .asked => 0
      | some (.fault _) => 1
      | none => if p.hasFailed then 1 else 0
    playPieces name (p.pieces.length + 1) p.pieces.reverse fun _ => .exit code

/-- Whether an argument is made of options of the `echo` program. -/
def isEchoOption : Chars → Bool
  | '-' :: letters => letters != [] && letters.all (fun c => c == 'n' || c == 'e' || c == 'E')
  | _ => false

/-- A text with the escapes of the `echo` program worked out, and whether it goes on after its end.
The first argument bounds its characters. -/
def echoEscaped : Nat → Chars → Chars × Bool
  | 0, _ => ([], true)
  | _, [] => ([], true)
  | bound + 1, '\\' :: rest =>
    let after (text rest : Chars) : Chars × Bool :=
      let (more, goesOn) := echoEscaped bound rest
      (text ++ more, goesOn)
    match rest with
    | 'c' :: _ => ([], false)
    | '"' :: rest => after ['\\', '"'] rest
    | 'u' :: rest => after ['\\', 'u'] rest
    | 'U' :: rest => after ['\\', 'U'] rest
    | 'x' :: rest =>
      match octetEscape? 16 2 rest with
      | some (c, rest) => after [c] rest
      | none => after ['\\', 'x'] rest
    | rest =>
      match printedEscape true rest with
      | .text text rest => after text rest
      | _ => ([], true)
  | bound + 1, c :: rest =>
    let (more, goesOn) := echoEscaped bound rest
    (c :: more, goesOn)

/-- Prints arguments with blanks between them: `-n` leaves the newline away, `-e` makes escapes
count and `-E` makes them not count. -/
def echo (name : Chars) (arguments : List Chars) : Program :=
  let options := (arguments.takeWhile isEchoOption).flatten
  let text := joined (arguments.dropWhile isEchoOption)
  let escapes := (options.reverse.find? fun c => c == 'e' || c == 'E') == some 'e'
  let (text, goesOn) := if escapes then echoEscaped (text.length + 1) text else (text, true)
  print name (if !options.contains 'n' && goesOn then text ++ ['\n'] else text) fun _ => .exit 0

end Dialogue.Tool
