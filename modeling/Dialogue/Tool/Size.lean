import Dialogue.Number.Whole

/-!
Sizes with units. A number may be followed by the letter of a unit, which multiplies it: `b` means
blocks, the others are powers of 1024, or of 1000 if a `B` follows them. A unit alone stands for one
of it.
-/

namespace Dialogue.Tool

/-- Why a text is no size. -/
inductive SizeFault
  | malformed
  | tooLarge
deriving Repr, DecidableEq

/-- The greatest size. -/
def greatestSize : Nat := 18446744073709551615

/-- Which power of its base a unit is, if it is one. -/
def unitPower? (c : Char) : Option Nat :=
  match c with
  | 'k' | 'K' => some 1
  | 'm' | 'M' => some 2
  | 'G' => some 3
  | 'T' => some 4
  | 'P' => some 5
  | 'E' => some 6
  | 'Z' => some 7
  | 'Y' => some 8
  | 'R' => some 9
  | 'Q' => some 10
  | _ => none

/-- By what a unit multiplies. -/
def unitScale? : Chars → Option Nat
  | [] => some 1
  | ['b'] => some 512
  | [c] | [c, 'i', 'B'] => (unitPower? c).map (Nat.pow 1024)
  | [c, 'B'] | [c, 'D'] => (unitPower? c).map (Nat.pow 1000)
  | _ => none

/-- So many of a unit, if that is no more than the greatest size. -/
def ofUnits (count scale : Nat) : Except SizeFault Nat :=
  if greatestSize < count ∨ greatestSize < count * scale then .error .tooLarge
  else .ok (count * scale)

/-- The size that a text gives. Blanks and a plus sign may stand before its digits. -/
def size? (text : Chars) : Except SizeFault Nat :=
  let signed := text.dropWhile Number.isNumberBlank
  let unsigned := if signed.head? = some '+' then signed.tail else signed
  let digits := unsigned.takeWhile Char.isDigit
  let (count, unit) :=
    if digits = [] then (1, text)
    else (Number.ofDigits 10 digits, unsigned.dropWhile Char.isDigit)
  match unitScale? unit with
  | none => .error .malformed
  | some scale => if text = [] then .error .malformed else ofUnits count scale

end Dialogue.Tool
