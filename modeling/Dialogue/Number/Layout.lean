import Dialogue.Number.Floating
import Dialogue.Text.Latin

/-!
Laying out values: texts and numbers are brought to a width, and numbers are written with a sign, in
a base, or with a number of decimal places.
-/

namespace Dialogue.Number

/-- How a value is laid out. -/
structure Layout where
  /-- It is filled up behind and not before. -/
  left : Bool := false
  /-- A number is filled up with zeros. -/
  zeros : Bool := false
  /-- A plus sign stands before a number that is not negative. -/
  plus : Bool := false
  /-- A blank stands there instead. -/
  space : Bool := false
  /-- The base, the point or zeros at the end are shown that could be left out. -/
  alternate : Bool := false
  width : Nat := 0
  precision : Option Nat := none
deriving Repr, DecidableEq

namespace Layout

/-- A text filled up to the width. -/
def fill (layout : Layout) (text : Chars) : Chars :=
  let gap := List.replicate (layout.width - text.length) ' '
  if layout.left then text ++ gap else gap ++ text

/-- Digits behind what stands before them, filled up to the width. The flag says that this may be
done with zeros. -/
def fillDigits (layout : Layout) (zeros : Bool) (before digits : Chars) : Chars :=
  if zeros && layout.zeros && !layout.left then
    before ++ List.replicate (layout.width - before.length - digits.length) '0' ++ digits
  else layout.fill (before ++ digits)

/-- A text, cut off at the precision. -/
def text (layout : Layout) (text : Chars) : Chars :=
  layout.fill (text.take (layout.precision.getD text.length))

/-- The sign of a number. -/
def sign (layout : Layout) (negative : Bool) : Chars :=
  if negative then ['-'] else if layout.plus then ['+'] else if layout.space then [' '] else []

/-- Digits with zeros before them up to the precision. Zero has no digit if it is to have none. -/
def wholeDigits (layout : Layout) (base n : Nat) : Chars :=
  let digits := if n = 0 && layout.precision = some 0 then [] else Nat.toDigits base n
  List.replicate (layout.precision.getD 1 - digits.length) '0' ++ digits

/-- A whole number with its sign. -/
def signed (layout : Layout) (n : Int) : Chars :=
  layout.fillDigits layout.precision.isNone (layout.sign (n < 0)) (layout.wholeDigits 10 n.natAbs)

/-- A natural number, in the base of a conversion. -/
def unsigned (layout : Layout) (conversion : Char) (n : Nat) : Chars :=
  let fill (before digits : Chars) : Chars :=
    layout.fillDigits layout.precision.isNone before digits
  match conversion with
  | 'o' =>
    let digits := layout.wholeDigits 8 n
    fill [] (if layout.alternate && digits.head? != some '0' then '0' :: digits else digits)
  | 'x' =>
    fill (if layout.alternate && n != 0 then ['0', 'x'] else []) (layout.wholeDigits 16 n)
  | 'X' =>
    fill (if layout.alternate && n != 0 then ['0', 'X'] else [])
      ((layout.wholeDigits 16 n).map Char.toUpper)
  | _ => fill [] (layout.wholeDigits 10 n)

/-- The nearest natural number to a magnitude times a power of ten. -/
def scaled (significand : Nat) (exponent places : Int) : Nat :=
  let (numerator, denominator) := Floating.fraction significand exponent
  roundHalfEven (numerator * Nat.pow 10 places.toNat) (denominator * Nat.pow 10 (-places).toNat)

/-- The place of the first decimal digit of a magnitude, counted from the one before the point. -/
def firstPlace (significand : Nat) (exponent : Int) : Int :=
  let (numerator, denominator) := Floating.fraction significand exponent
  let digits (n : Nat) : Nat := (Nat.toDigits 10 n).length
  if numerator = 0 then 0
  else if denominator ≤ numerator then digits (numerator / denominator) - 1
  else
    let places := digits (denominator / numerator)
    if denominator ≤ numerator * Nat.pow 10 (places - 1) then -((places : Int) - 1) else -places

/-- Digits with a point before the last of them, unless none would follow it. -/
def pointed (layout : Layout) (places : Nat) (digits : Chars) : Chars :=
  let digits := List.replicate (places + 1 - digits.length) '0' ++ digits
  let whole := digits.take (digits.length - places)
  let behind := digits.drop (digits.length - places)
  if behind = [] && !layout.alternate then whole else whole ++ '.' :: behind

/-- A magnitude with a number of decimal places. -/
def fixed (layout : Layout) (places significand : Nat) (exponent : Int) : Chars :=
  layout.pointed places (Nat.toDigits 10 (scaled significand exponent places))

/-- The digits of a magnitude, one more than the given number, and the place of the first. -/
def leadingDigits (more significand : Nat) (exponent : Int) : Chars × Int :=
  let first := firstPlace significand exponent
  let digits := Nat.toDigits 10 (scaled significand exponent (more - first))
  -- Rounding may have made a further digit.
  if digits.length = more + 2 then (digits.take (more + 1), first + 1)
  else (List.replicate (more + 1 - digits.length) '0' ++ digits, first)

/-- An exponent behind its letter: a sign and at least so many digits. -/
def exponentText (letter : Char) (least : Nat) (exponent : Int) : Chars :=
  let digits := Nat.toDigits 10 exponent.natAbs
  letter :: (if exponent < 0 then '-' else '+')
    :: List.replicate (least - digits.length) '0' ++ digits

/-- A magnitude with one digit before the point, and an exponent. -/
def scientific (layout : Layout) (places significand : Nat) (exponent : Int) : Chars :=
  let (digits, first) := leadingDigits places significand exponent
  layout.pointed places digits ++ exponentText 'e' 2 first

/-- Digits with a point, without zeros at the end, and without the point if nothing follows it. -/
def withoutZeros (digits : Chars) : Chars :=
  let behind := digits.dropWhile (· ≠ '.')
  let kept := (behind.reverse.dropWhile (· = '0')).reverse
  digits.takeWhile (· ≠ '.') ++ (if kept = ['.'] then [] else kept)

/-- A magnitude with so many digits that count, with an exponent only if it is very small or has
more digits than that. -/
def general (layout : Layout) (precision significand : Nat) (exponent : Int) : Chars :=
  let precision := max precision 1
  let (digits, first) := leadingDigits (precision - 1) significand exponent
  let tidy (digits : Chars) : Chars := if layout.alternate then digits else withoutZeros digits
  if -4 ≤ first ∧ first < precision then
    tidy (layout.fixed (precision - 1 - first).toNat significand exponent)
  else tidy (layout.pointed (precision - 1) digits) ++ exponentText 'e' 2 first

/-- A magnitude in hexadecimal digits with an exponent of two. All digits are shown that count if no
precision is asked for. -/
def hexadecimal (layout : Layout) (format : FloatFormat) (significand : Nat) (exponent : Int) :
    Chars :=
  -- The significand is written with as many digits as the format has behind the point.
  let bits := format.fractionBits
  let lead : Int := (format.precision - 1 - bits : Nat)
  let first : Int :=
    if significand = 0 then 0
    else max ((significand.log2 : Int) + exponent - lead) (format.leastExponent + bits)
  let shift := exponent - first + bits
  let mantissa := significand * Nat.pow 2 shift.toNat / Nat.pow 2 (-shift).toNat
  let places := bits / 4
  let digits (places n : Nat) : Chars :=
    let digits := Nat.toDigits 16 n
    List.replicate (places + 1 - digits.length) '0' ++ digits
  let (shown, first) :=
    match layout.precision with
    | none =>
      let all := layout.pointed places (digits places mantissa)
      (if layout.alternate && (withoutZeros all).contains '.' = false
        then withoutZeros all ++ ['.'] else withoutZeros all, first)
    | some precision =>
      if places ≤ precision then
        (layout.pointed precision
          (digits places mantissa ++ List.replicate (precision - places) '0'), first)
      else
        let rounded := roundHalfEven mantissa (Nat.pow 16 (places - precision))
        -- Rounding may have made a further digit.
        if rounded = Nat.pow 16 (precision + 1) then
          (layout.pointed precision ('1' :: List.replicate precision '0'), first + 4)
        else (layout.pointed precision (digits precision rounded), first)
  shown ++ exponentText 'p' 1 first

/-- A floating number of a format, by the letter of a conversion. -/
def floating (layout : Layout) (format : FloatFormat) (conversion : Char) (value : Floating) :
    Chars :=
  let sign := layout.sign value.isNegative
  let kind := conversion.toLower
  let shown :=
    match value with
    | .notNumber _ => layout.fillDigits false sign ['n', 'a', 'n']
    | .infinite _ => layout.fillDigits false sign ['i', 'n', 'f']
    | .finite _ significand exponent =>
      let precision := layout.precision.getD 6
      if kind = 'a' then
        layout.fillDigits true (sign ++ ['0', 'x'])
          (layout.hexadecimal format significand exponent)
      else
        layout.fillDigits true sign
          (if kind = 'f' then layout.fixed precision significand exponent
            else if kind = 'e' then layout.scientific precision significand exponent
            else layout.general precision significand exponent)
  if conversion.isUpper then shown.map Char.toUpper else shown

end Layout

end Dialogue.Number
