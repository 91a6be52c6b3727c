import Dialogue.Number.Binary64
import Dialogue.Number.Whole

/-!
Floating numbers of binary formats, held exactly. A result that a format does not hold is rounded to
the nearest number that it does, a half to the even significand. Numbers are read from texts in
decimal or hexadecimal digits, as far as the text is one.
-/

namespace Dialogue.Number

/-- A binary format of floating numbers. -/
structure FloatFormat where
  /-- How many binary digits a significand has. -/
  precision : Nat
  leastExponent : Int
  /-- The greatest exponent of a finite number. -/
  greatestExponent : Int
  /-- How many binary digits a significand has behind the point, when it is written with one. -/
  fractionBits : Nat
deriving Repr, DecidableEq

/-- The format of 64 bits. -/
def FloatFormat.double : FloatFormat := ⟨53, -1074, 971, 52⟩

/-- The format of 80 bits. -/
def FloatFormat.extended : FloatFormat := ⟨64, -16445, 16320, 60⟩

/-- A floating number. A finite one is its significand times two to its exponent. -/
inductive Floating
  | notNumber (negative : Bool)
  | infinite (negative : Bool)
  | finite (negative : Bool) (significand : Nat) (exponent : Int)
deriving Repr, DecidableEq

namespace Floating

/-- Zero. -/
def zero (negative : Bool) : Floating := .finite negative 0 0

/-- Whether a number has a minus sign. -/
def isNegative : Floating → Bool
  | .notNumber negative => negative
  | .infinite negative => negative
  | .finite negative _ _ => negative

/-- Whether a number is none. -/
def isNotNumber : Floating → Bool
  | .notNumber _ => true
  | _ => false

/-- The number of a format that is nearest to a fraction. The flag says that the fraction is beyond
the format: it is too great, or so small that digits of it are lost. -/
def nearest (format : FloatFormat) (negative : Bool) (numerator denominator : Nat) :
    Floating × Bool :=
  if numerator = 0 then (zero negative, false)
  else
    let digits := format.precision - 1
    let exponent := max (Binary64.floorLog2 numerator denominator - digits) format.leastExponent
    let scaledUp := numerator * Nat.pow 2 (-exponent).toNat
    let scaledDown := denominator * Nat.pow 2 exponent.toNat
    let significand := roundHalfEven scaledUp scaledDown
    let isExact := scaledUp % scaledDown = 0
    let (significand, exponent) :=
      if significand = Nat.pow 2 format.precision then (Nat.pow 2 digits, exponent + 1)
      else (significand, exponent)
    if format.greatestExponent < exponent then (.infinite negative, true)
    else (.finite negative significand exponent, significand < Nat.pow 2 digits && !isExact)

/-- The magnitude of a finite number as a fraction. -/
def fraction (significand : Nat) (exponent : Int) : Nat × Nat :=
  (significand * Nat.pow 2 exponent.toNat, Nat.pow 2 (-exponent).toNat)

/-- A whole number. -/
def ofInt (format : FloatFormat) (n : Int) : Floating :=
  (nearest format (n < 0) n.natAbs 1).1

/-- The sum of two numbers. -/
def add (format : FloatFormat) (a b : Floating) : Floating :=
  match a, b with
  | .notNumber n, _ => .notNumber n
  | _, .notNumber n => .notNumber n
  | .infinite n, .infinite m => if n = m then .infinite n else .notNumber true
  | .infinite n, _ => .infinite n
  | _, .infinite m => .infinite m
  | .finite n significand exponent, .finite m significand' exponent' =>
    let least := min exponent exponent'
    let signed (negative : Bool) (significand : Nat) (exponent : Int) : Int :=
      let magnitude : Int := significand * Nat.pow 2 (exponent - least).toNat
      if negative then -magnitude else magnitude
    let sum := signed n significand exponent + signed m significand' exponent'
    if sum = 0 then zero (n && m)
    else
      let (numerator, denominator) := fraction sum.natAbs least
      (nearest format (sum < 0) numerator denominator).1

/-- The product of two numbers. -/
def mul (format : FloatFormat) (a b : Floating) : Floating :=
  let negative := a.isNegative != b.isNegative
  match a, b with
  | .notNumber n, _ => .notNumber n
  | _, .notNumber n => .notNumber n
  | .infinite _, .finite _ 0 _ => .notNumber true
  | .finite _ 0 _, .infinite _ => .notNumber true
  | .infinite _, _ => .infinite negative
  | _, .infinite _ => .infinite negative
  | .finite _ significand exponent, .finite _ significand' exponent' =>
    let (numerator, denominator) := fraction (significand * significand') (exponent + exponent')
    (nearest format negative numerator denominator).1

/-- Whether a number lies below another one. -/
def isBelow (a b : Floating) : Bool :=
  match a, b with
  | .notNumber _, _ => false
  | _, .notNumber _ => false
  | .infinite n, .infinite m => n && !m
  | .infinite n, _ => n
  | _, .infinite m => !m
  | .finite n significand exponent, .finite m significand' exponent' =>
    let least := min exponent exponent'
    let signed (negative : Bool) (significand : Nat) (exponent : Int) : Int :=
      let magnitude : Int := significand * Nat.pow 2 (exponent - least).toNat
      if negative then -magnitude else magnitude
    signed n significand exponent < signed m significand' exponent'

/-- The number of the format nearest to digits, counted from the last, with an exponent of ten.
Numbers far beyond all formats are not worked out. -/
def ofDecimal (format : FloatFormat) (negative : Bool) (digits : Nat) (exponent : Int) :
    Floating × Bool :=
  let size : Int := (Nat.toDigits 10 digits).length + exponent
  if digits = 0 then (zero negative, false)
  else if size < -5100 then (zero negative, true)
  else if 5000 < size then (.infinite negative, true)
  else
    nearest format negative (digits * Nat.pow 10 exponent.toNat) (Nat.pow 10 (-exponent).toNat)

/-- The same with an exponent of two. -/
def ofBinary (format : FloatFormat) (negative : Bool) (digits : Nat) (exponent : Int) :
    Floating × Bool :=
  let size : Int := digits.log2 + exponent
  if digits = 0 then (zero negative, false)
  else if size < -17000 then (zero negative, true)
  else if 17000 < size then (.infinite negative, true)
  else
    let (numerator, denominator) := fraction digits exponent
    nearest format negative numerator denominator

end Floating

/-- A floating number at the start of a text, and the rest. -/
structure FloatPrefix where
  value : Floating
  rest : Chars
  /-- The number is beyond the format. -/
  isHeld : Bool := false

/-- Digits of a base with at most one point among them: the number without the point, how many
digits were behind it, and the rest. There are none if there is no digit. -/
def pointedDigits? (base : Nat) (text : Chars) : Option (Nat × Nat × Chars) :=
  let whole := text.takeWhile (isDigitOf base)
  let rest := text.dropWhile (isDigitOf base)
  let (behind, rest) :=
    match rest with
    | '.' :: more => (more.takeWhile (isDigitOf base), more.dropWhile (isDigitOf base))
    | rest => ([], rest)
  if whole = [] ∧ behind = [] then none
  else some (ofDigits base (whole ++ behind), behind.length, rest)

/-- The exponent behind a letter at the start of a text, and the rest; it is zero if there is
none. -/
def exponentAfter (letter : Char) (text : Chars) : Int × Chars :=
  match text with
  | c :: rest =>
    if c.toLower = letter then
      let (negative, digits) :=
        match rest with
        | '-' :: rest => (true, rest)
        | '+' :: rest => (false, rest)
        | rest => (false, rest)
      match digits.takeWhile Char.isDigit with
      | [] => (0, text)
      | taken =>
        let n : Int := ofDigits 10 taken
        (if negative then -n else n, digits.dropWhile Char.isDigit)
    else (0, text)
  | [] => (0, [])

/-- The rest of a text after a word in letters of either case, if it starts with that. -/
def afterWord? (word : String) (text : Chars) : Option Chars :=
  let letters := text.take word.length
  if letters.map Char.toLower = word.toList then some (text.drop word.length) else none

/-- What follows the name of what is no number: it may be told apart from others in parentheses. -/
def afterNotNumber (rest : Chars) : Chars :=
  match rest with
  | '(' :: inside =>
    match inside.dropWhile fun c => c.isAlphanum || c == '_' with
    | ')' :: after => after
    | _ => rest
  | rest => rest

/-- The floating number at the start of a text; blanks and a sign may stand before it. -/
def float? (format : FloatFormat) (text : Chars) : Option FloatPrefix :=
  let text := text.dropWhile isNumberBlank
  let (negative, text) :=
    match text with
    | '-' :: rest => (true, rest)
    | '+' :: rest => (false, rest)
    | rest => (false, rest)
  let decimal (text : Chars) : Option FloatPrefix :=
    (pointedDigits? 10 text).map fun (digits, behind, rest) =>
      let (exponent, rest) := exponentAfter 'e' rest
      let (value, isHeld) := Floating.ofDecimal format negative digits (exponent - behind)
      { value, rest, isHeld }
  let hexadecimal (text : Chars) : Option FloatPrefix :=
    (pointedDigits? 16 text).map fun (digits, behind, rest) =>
      let (exponent, rest) := exponentAfter 'p' rest
      let (value, isHeld) := Floating.ofBinary format negative digits (exponent - 4 * behind)
      { value, rest, isHeld }
  match afterWord? "infinity" text <|> afterWord? "inf" text, afterWord? "nan" text with
  | some rest, _ => some { value := .infinite negative, rest }
  | none, some rest => some { value := .notNumber negative, rest := afterNotNumber rest }
  | none, none => (afterWord? "0x" text).bind hexadecimal <|> decimal text

end Dialogue.Number
