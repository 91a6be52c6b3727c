import Dialogue.Number.Binary64

/-!
Lengths of time in whole nanoseconds, their text, and the length nearest to a number of seconds.
-/

namespace Dialogue

/-- A length of time. -/
structure Duration where
  nanoseconds : Nat
deriving Repr, DecidableEq

namespace Duration

/-- How many nanoseconds a second has. -/
def perSecond : Nat := 1000000000

/-- The first length that is too long: seconds are counted in 64 bits. -/
def limit : Nat := Nat.pow 2 64 * perSecond

/-- A length of whole milliseconds. -/
def milliseconds (n : Nat) : Duration :=
  ⟨n * 1000000⟩

/-- The shorter of two lengths. -/
def shorter (first second : Duration) : Duration :=
  if first.nanoseconds ≤ second.nanoseconds then first else second

/-- A count of `parts` of a unit, `10 ^ places` parts each: the whole units, then the remaining
parts after a point, without zeros at the end. -/
def decimalText (parts places : Nat) : String :=
  let whole := parts / Nat.pow 10 places
  let digits := Nat.toDigits 10 (parts % Nat.pow 10 places)
  let padded := List.replicate (places - digits.length) '0' ++ digits
  let fraction := (padded.reverse.dropWhile (· = '0')).reverse
  if fraction = [] then toString whole else s!"{whole}.{String.ofList fraction}"

/-- The text of a length: its value in the greatest unit of which there is at least one whole,
with all digits that are not zero. -/
def text (d : Duration) : String :=
  if perSecond ≤ d.nanoseconds then decimalText d.nanoseconds 9 ++ "s"
  else if 1000000 ≤ d.nanoseconds then decimalText d.nanoseconds 6 ++ "ms"
  else if 1000 ≤ d.nanoseconds then decimalText d.nanoseconds 3 ++ "µs"
  else s!"{d.nanoseconds}ns"

/-- The length nearest to a number of seconds, a half of a nanosecond going to the even one. There
is none for a number below zero, for one that is too great, and for one that is no number. -/
def ofSeconds? : Number.Binary64 → Option Duration
  | .nan => none
  | .infinite _ => none
  | .finite negative significand exponent =>
    if negative && significand != 0 then none
    else
      let nanoseconds :=
        Number.roundHalfEven (significand * perSecond * Nat.pow 2 exponent.toNat)
          (Nat.pow 2 (-exponent).toNat)
      if nanoseconds < limit then some ⟨nanoseconds⟩ else none

end Duration

end Dialogue
