import Dialogue.Text.Octets

/-!
Octets as characters. Programs that work octet by octet handle their text as characters of which
each stands for the octet of the same number.
-/

namespace Dialogue

/-- A text of which each character is an octet. -/
abbrev Chars := List Char

namespace Text

/-- Octets as characters. -/
def ofOctets (octets : Octets) : Chars :=
  octets.map fun b => Char.ofNat b.toNat

/-- Characters as octets. -/
def toOctets (text : Chars) : Octets :=
  text.map fun c => UInt8.ofNat c.toNat

/-- A string as characters that are octets. -/
def spell (text : String) : Chars := ofOctets (octets text)

/-- A number in decimal digits. -/
def decimal (n : Nat) : Chars := Nat.toDigits 10 n

/-- A number in decimal digits with its sign. -/
def decimalInt (n : Int) : Chars :=
  if n < 0 then '-' :: decimal n.natAbs else decimal n.natAbs

/-- The number that a text of decimal digits is; a sign may stand before it, blanks around it. -/
def integer? (text : Chars) : Option Int :=
  let isGap (c : Char) : Bool := c == ' ' || c == '\t' || c == '\n'
  let text := ((text.dropWhile isGap).reverse.dropWhile isGap).reverse
  let (negative, digits) :=
    match text with
    | '-' :: rest => (true, rest)
    | '+' :: rest => (false, rest)
    | rest => (false, rest)
  if digits = [] ∨ !digits.all Char.isDigit then none
  else
    let n : Nat := digits.foldl (fun n c => n * 10 + (c.toNat - '0'.toNat)) 0
    some (if negative then -(n : Int) else n)

end Text

end Dialogue
