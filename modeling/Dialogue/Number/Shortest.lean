import Dialogue.Number.Binary64

/-!
The shortest text of a binary64 number: the fewest decimal digits that read back as the number,
written out in full without an exponent.
-/

namespace Dialogue.Number.Binary64

/-- A positive number with the reals that round to it, all over one denominator. The ends belong
to the interval if the significand is even. -/
structure Neighbourhood where
  value : Nat
  least : Nat
  greatest : Nat
  denominator : Nat
  closed : Bool
deriving Repr

/-- The neighbourhood of a positive significand and its exponent, in quarters of a unit: half a
unit each way, but only a quarter downwards where the format's spacing halves. -/
def neighbourhood (significand : Nat) (exponent : Int) : Neighbourhood :=
  let halves := significand = Nat.pow 2 (precision - 1) ∧ leastExponent < exponent
  let scale := Nat.pow 2 exponent.toNat
  { value := 4 * significand * scale
    least := (4 * significand - if halves then 1 else 2) * scale
    greatest := (4 * significand + 2) * scale
    denominator := 4 * Nat.pow 2 (-exponent).toNat
    closed := significand % 2 = 0 }

/-- Whether `digits * 10 ^ place` lies in a neighbourhood. -/
def Neighbourhood.contains (area : Neighbourhood) (digits : Nat) (place : Int) : Bool :=
  let here := digits * area.denominator * Nat.pow 10 place.toNat
  let least := area.least * Nat.pow 10 (-place).toNat
  let greatest := area.greatest * Nat.pow 10 (-place).toNat
  if area.closed then least ≤ here && here ≤ greatest else least < here && here < greatest

/-- The multiple of `10 ^ place` in a neighbourhood that is nearest to its value, if there is one.
Only the two multiples next to the value can be. -/
def Neighbourhood.onGrid? (area : Neighbourhood) (place : Int) : Option Nat :=
  let numerator := area.value * Nat.pow 10 (-place).toNat
  let denominator := area.denominator * Nat.pow 10 place.toNat
  let below := numerator / denominator
  let twice := 2 * (numerator % denominator)
  match area.contains below place, area.contains (below + 1) place with
  -- Of two that are equally near, the greater one is taken.
  | true, true => some (if twice < denominator then below else below + 1)
  | true, false => some below
  | false, true => some (below + 1)
  | false, false => none

/-- The coarsest decimal grid, from `place` down, that has a multiple in the neighbourhood. -/
def Neighbourhood.firstGrid (area : Neighbourhood) : Nat → Int → Nat × Int
  | 0, place =>
    (area.value * Nat.pow 10 (-place).toNat / (area.denominator * Nat.pow 10 place.toNat), place)
  | more + 1, place =>
    match area.onGrid? place with
    | some digits => if digits = 0 then area.firstGrid more (place - 1) else (digits, place)
    | none => area.firstGrid more (place - 1)

/-- The decimal places to look at: no grid coarser than the value itself can hit, and 17 digits
always suffice. -/
def shortest (significand : Nat) (exponent : Int) : Nat × Int :=
  let area := neighbourhood significand exponent
  let whole := area.value / area.denominator
  let start : Int :=
    if whole = 0 then
      -- The first place after the point at which a digit can stand.
      let zeros := (Nat.toDigits 10 (area.denominator / area.value)).length
      2 - (zeros : Int)
    else (Nat.toDigits 10 whole).length
  area.firstGrid 20 start

/-- Digits and a decimal place written out without an exponent, and without zeros at the end of
the fraction. -/
def positional (digits : Nat) (place : Int) : List Char :=
  let all := Nat.toDigits 10 digits
  let kept := (all.reverse.dropWhile (· = '0')).reverse
  let place := place + (all.length - kept.length : Nat)
  if 0 ≤ place then kept ++ List.replicate place.toNat '0'
  else
    let after := (-place).toNat
    if after < kept.length then
      kept.take (kept.length - after) ++ '.' :: kept.drop (kept.length - after)
    else '0' :: '.' :: List.replicate (after - kept.length) '0' ++ kept

/-- The text of a number: the fewest digits that read back, never with an exponent. -/
def text : Binary64 → List Char
  | .nan => ['N', 'a', 'N']
  | .infinite negative => if negative then ['-', 'i', 'n', 'f'] else ['i', 'n', 'f']
  | .finite negative significand exponent =>
    let magnitude :=
      if significand = 0 then ['0']
      else
        let (digits, place) := shortest significand exponent
        positional digits place
    if negative then '-' :: magnitude else magnitude

end Dialogue.Number.Binary64
