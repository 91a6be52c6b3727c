import Dialogue.Text.Latin

/-!
Whole numbers in texts, as they are written in programs: a zero at the start asks for base eight,
`0x` for base sixteen and `0b` for base two. Numbers that do not fit into 64 bits are held at the
nearest that does.
-/

namespace Dialogue.Number

/-- The least and the greatest number of 64 bits with a sign. -/
def leastWhole : Int := -9223372036854775808

/-- The greatest number of 64 bits with a sign. -/
def greatestWhole : Int := 9223372036854775807

/-- The blanks that may stand before a number. -/
def isNumberBlank (c : Char) : Bool := " \t\n\x0b\x0c\r".contains c

/-- The value of a digit. -/
def digitValue? (c : Char) : Option Nat :=
  if c.isDigit then some (c.toNat - '0'.toNat)
  else if 'a' ≤ c && c ≤ 'z' then some (c.toNat - 'a'.toNat + 10)
  else if 'A' ≤ c && c ≤ 'Z' then some (c.toNat - 'A'.toNat + 10)
  else none

/-- Whether a character is a digit of a base. -/
def isDigitOf (base : Nat) (c : Char) : Bool := (digitValue? c).any (· < base)

/-- The number that digits of a base make. -/
def ofDigits (base : Nat) (digits : Chars) : Nat :=
  digits.foldl (fun n c => n * base + (digitValue? c).getD 0) 0

/-- A number at the start of a text, and the rest. -/
structure Prefixed where
  value : Int
  rest : Chars
  /-- It did not fit and is held at the nearest number that does. -/
  isHeld : Bool := false

/-- The digits at the start of a text, in the base that they ask for, and the rest. There are none
if the text does not start with a digit. -/
def digits? (base : Option Nat) (text : Chars) : Option (Nat × Chars × Chars) :=
  let plain (base : Nat) (text : Chars) : Option (Nat × Chars × Chars) :=
    match text.takeWhile (isDigitOf base) with
    | [] => none
    | digits => some (base, digits, text.dropWhile (isDigitOf base))
  match base, text with
  | some base, text => plain base text
  | none, '0' :: x :: c :: rest =>
    if (x == 'x' || x == 'X') && isDigitOf 16 c then plain 16 (c :: rest)
    else if (x == 'b' || x == 'B') && isDigitOf 2 c then plain 2 (c :: rest)
    else plain 8 text
  | none, '0' :: _ => plain 8 text
  | none, text => plain 10 text

/-- A number between two bounds: the nearest that lies there. -/
def hold (least greatest value : Int) (rest : Chars) : Prefixed :=
  if value < least then { value := least, rest, isHeld := true }
  else if greatest < value then { value := greatest, rest, isHeld := true }
  else { value, rest }

/-- The number at the start of a text, between two bounds; blanks and a sign may stand before it. -/
def whole? (base : Option Nat) (least greatest : Int) (text : Chars) : Option Prefixed :=
  let text := text.dropWhile isNumberBlank
  let (negative, text) :=
    match text with
    | '-' :: rest => (true, rest)
    | '+' :: rest => (false, rest)
    | rest => (false, rest)
  (digits? base text).map fun (base, digits, rest) =>
    let magnitude : Int := ofDigits base digits
    hold least greatest (if negative then -magnitude else magnitude) rest

/-- The number of 64 bits at the start of a text. -/
def whole64? (base : Option Nat) (text : Chars) : Option Prefixed :=
  whole? base leastWhole greatestWhole text

/-- The number of 64 bits without a sign at the start of a text. A number with a minus sign is
counted down from the first that is too great. -/
def word64? (base : Option Nat) (text : Chars) : Option Prefixed :=
  let limit : Int := 18446744073709551616
  match whole? base (1 - limit) (limit - 1) text with
  | none => none
  | some found =>
    some { found with value := if found.isHeld then limit - 1 else found.value % limit }

/-- The number of 64 bits that a text is, in decimal digits; blanks may stand around it. -/
def wholeText? (text : Chars) : Option Int :=
  match whole64? (some 10) text with
  | some found =>
    if found.isHeld || !found.rest.all isNumberBlank then none else some found.value
  | none => none

end Dialogue.Number
