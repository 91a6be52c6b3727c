import Dialogue.Number.Layout
import Dialogue.Shell.Builtin.Letters
import Dialogue.Tool.Condition
import Dialogue.Tool.Quoting

/-!
Commands that print their arguments: `echo` joins them, `printf` fills them into a format as often
as arguments are left. Escapes count for both. `test` only says how its arguments come out.
-/

namespace Dialogue.Shell

open Activity

/-- What an escape stands for, and the rest; the backslash has been taken off. What is no escape is
a backslash. -/
def escapeAt (text : Chars) : Char × Chars :=
  match text with
  | c :: rest =>
    match Tool.letterEscape? c with
    | some letter => (letter, rest)
    | none => (Tool.octetEscape? 8 3 text).getD ('\\', text)
  | [] => ('\\', [])

/-- A text with its escapes worked out, and whether it goes on after its end; octal digits may stand
behind a zero. The first argument bounds the characters. -/
def interpreted (text : Chars) : Chars × Bool :=
  let rec go : Nat → Chars → Chars → Chars × Bool
    | 0, done, _ => (done.reverse, true)
    | _ + 1, done, [] => (done.reverse, true)
    | bound + 1, done, '\\' :: rest =>
      match rest with
      | 'c' :: _ => (done.reverse, false)
      | rest =>
        let rest :=
          match rest with
          | '0' :: c :: more => if Number.isDigitOf 8 c then c :: more else rest
          | rest => rest
        let (c, rest) := escapeAt rest
        go bound (c :: done) rest
    | bound + 1, done, c :: rest => go bound (c :: done) rest
  go (2 * text.length + 1) [] text

/-- What `echo` prints: only a hyphen with an `n` before the arguments is an option. -/
def echoed (arguments : List Chars) : Chars :=
  let (ending, arguments) :=
    match arguments with
    | ['-', 'n'] :: rest => ([], rest)
    | arguments => (['\n'], arguments)
  let (text, goesOn) := interpreted (arguments.intersperse [' ']).flatten
  if goesOn then text ++ ending else text

/-- Prints arguments. -/
def runEcho (arguments : List Chars) : Activity Nat := printOut (echoed arguments)

/-- How the filling of a format ends before the format does. -/
inductive FillEnd
  /-- An argument says so. -/
  | asked
  | fault (complaint : Chars)
deriving Repr, DecidableEq

/-- A format that is being filled. -/
structure Filling where
  /-- What is to be printed, the latest first. -/
  printed : Chars := []
  arguments : List Chars
  /-- Some argument was used. -/
  hasUsed : Bool := false
  /-- What was wrong with arguments, the latest first. -/
  complaints : List Chars := []
  ending : Option FillEnd := none

namespace Filling

/-- Prints a text. -/
def add (f : Filling) (text : Chars) : Filling := { f with printed := text.reverse ++ f.printed }

/-- The next argument, if there is one left. -/
def next (f : Filling) : Option Chars × Filling :=
  match f.arguments with
  | [] => (none, f)
  | argument :: rest => (some argument, { f with arguments := rest, hasUsed := true })

/-- Complains about an argument that should be a number, if there is reason to. -/
def check (f : Filling) (argument rest : Chars) (isNumber isHeld : Bool) : Filling :=
  let complain (text : String) : Filling :=
    { f with complaints := (argument ++ Text.spell text) :: f.complaints }
  if rest != [] then
    complain (if isNumber then ": not completely converted" else ": expected numeric value")
  else if isHeld then complain ": Numerical result out of range"
  else f

/-- The octet behind a quote at the start of an argument. -/
def quoted? : Chars → Option Nat
  | '"' :: rest => some (rest.headD '\x00').toNat
  | '\'' :: rest => some (rest.headD '\x00').toNat
  | _ => none

/-- The next argument as a whole number, with a sign or without. -/
def whole (f : Filling) (signed : Bool) : Int × Filling :=
  match f.next with
  | (none, f) => (0, f)
  | (some argument, f) =>
    match quoted? argument with
    | some n => (n, f)
    | none =>
      let found := if signed then Number.whole64? none argument else Number.word64? none argument
      match found with
      | some found => (found.value, f.check argument found.rest true found.isHeld)
      | none => (0, f.check argument argument false false)

/-- The next argument as a floating number. -/
def float (f : Filling) : Number.Floating × Filling :=
  match f.next with
  | (none, f) => (.zero false, f)
  | (some argument, f) =>
    match quoted? argument with
    | some n => (.ofInt .double n, f)
    | none =>
      match Number.float? .double argument with
      | some found => (found.value, f.check argument found.rest true found.isHeld)
      | none => (.zero false, f.check argument argument false false)

end Filling

/-- The flags at the start of a conversion, and the rest. -/
def takeFlags (layout : Number.Layout) : Chars → Number.Layout × Chars
  | '-' :: rest => takeFlags { layout with left := true } rest
  | '0' :: rest => takeFlags { layout with zeros := true } rest
  | '+' :: rest => takeFlags { layout with plus := true } rest
  | ' ' :: rest => takeFlags { layout with space := true } rest
  | '#' :: rest => takeFlags { layout with alternate := true } rest
  | text => (layout, text)

/-- A size at the start of a text, and the rest: digits, or a star for the next argument. A star
among digits makes no sense, which the flag says. -/
def takeSize (text : Chars) (f : Filling) : Option Int × Bool × Chars × Filling :=
  let belongs (c : Char) : Bool := c.isDigit || c == '*'
  match text with
  | '*' :: rest =>
    let (n, f) := f.whole true
    (some (Int.bmod n 4294967296), false, rest, f)
  | text =>
    match text.takeWhile belongs with
    | [] => (none, false, text, f)
    | taken => (some (Number.ofDigits 10 taken), taken.contains '*', text.dropWhile belongs, f)

/-- Fills the next argument into a conversion of a letter. The answer is none if there is no such
letter. -/
def fillOne (layout : Number.Layout) (letter : Char) (f : Filling) : Option Filling :=
  if letter = 's' then
    let (argument, f) := f.next
    some (f.add (layout.text (argument.getD [])))
  else if letter = 'b' then
    let (argument, f) := f.next
    let (text, goesOn) := interpreted (argument.getD [])
    let f := f.add (layout.text text)
    some (if goesOn then f else { f with ending := some .asked })
  else if letter = 'c' then
    let (argument, f) := f.next
    some (f.add (layout.fill [(argument.getD []).headD '\x00']))
  else if letter = 'd' || letter = 'i' then
    let (n, f) := f.whole true
    some (f.add (layout.signed n))
  else if "ouxX".toList.contains letter then
    let (n, f) := f.whole false
    some (f.add (layout.unsigned letter n.toNat))
  else if "aAeEfFgG".toList.contains letter then
    let (value, f) := f.float
    some (f.add (layout.floating .double letter value))
  else none

/-- Fills a conversion, whose text without the sign is given, and returns what follows it. -/
def fillConversion (text : Chars) (f : Filling) : Filling × Chars :=
  let (layout, rest) := takeFlags {} text
  let (width, odd, rest, f) := takeSize rest f
  let layout :=
    match width with
    | none => layout
    | some n => { layout with width := n.natAbs, left := layout.left || n < 0 }
  let (layout, odd, rest, f) :=
    match rest with
    | '.' :: rest =>
      let (precision, odder, rest, f) := takeSize rest f
      let precision := precision.getD 0
      ({ layout with precision := if precision < 0 then none else some precision.toNat },
        odd || odder, rest, f)
    | rest => (layout, odd, rest, f)
  match rest with
  | [] => ({ f with ending := some (.fault (Text.spell "missing format character")) }, [])
  | letter :: rest =>
    let shown := '%' :: text.take (text.length - rest.length)
    match fillOne layout letter f with
    | none => ({ f with ending := some (.fault (shown ++ Text.spell ": invalid directive")) }, [])
    | some filled =>
      if odd then
        -- A conversion that makes no sense is printed as it is.
        let letters := if "diouxX".toList.contains letter then ['l', letter] else [letter]
        ({ filled with printed := (shown.dropLast ++ letters).reverse ++ f.printed }, rest)
      else (filled, rest)

/-- Fills a format once. The first argument bounds its characters. -/
def fillFormat : Nat → Chars → Filling → Filling
  | 0, _, f => f
  | bound + 1, format, f =>
    if f.ending.isSome then f
    else
      match format with
      | [] => f
      | '\\' :: rest =>
        let (c, rest) := escapeAt rest
        fillFormat bound rest (f.add [c])
      | '%' :: '%' :: rest => fillFormat bound rest (f.add ['%'])
      | '%' :: rest =>
        let (f, rest) := fillConversion rest f
        fillFormat bound rest f
      | c :: rest => fillFormat bound rest (f.add [c])

/-- Fills a format as often as arguments are left that it uses. The first argument bounds how
often. -/
def fillFormats (format : Chars) : Nat → Filling → Filling
  | 0, f => f
  | bound + 1, f =>
    let f := fillFormat (format.length + 1) format f
    if f.ending.isSome || !f.hasUsed || f.arguments.isEmpty then f
    else fillFormats format bound f

/-- Prints arguments in a format. What is wrong with them is said first. -/
def runPrintf (arguments : List Chars) : Activity Nat := do
  match ← withoutLetters arguments with
  | [] => failText "usage: printf format [arg ...]"
  | format :: arguments => do
    let f := fillFormats format (arguments.length + 1) { arguments }
    f.complaints.reverse.forM warn
    match f.ending with
    | some (.fault complaint) => do
      warn complaint
      let _ ← printOut f.printed.reverse
      setStatus 2
      raise .fault
    | _ => do
      let status ← printOut f.printed.reverse
      return if f.complaints.isEmpty then status else 1

/-- Says whether a condition holds. -/
def runTest (arguments : List Chars) : Activity Nat := do
  match Tool.condition false arguments with
  | .error (.badNumber argument) => badNumber argument
  | .error (.unexpected argument) => fail (argument ++ Text.spell ": unexpected operator")
  | .error (.noArgument operator) => fail (operator ++ Text.spell ": argument expected")
  | .error .unclosed => failText "closing paren expected"
  | .ok condition => do
    return if ← ask (Tool.decideCondition condition) then 0 else 1

/-- The same between brackets. -/
def runBracket (arguments : List Chars) : Activity Nat := do
  if arguments.getLast? = some [']'] then runTest arguments.dropLast else failText "missing ]"

end Dialogue.Shell
