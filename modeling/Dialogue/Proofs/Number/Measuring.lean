import Dialogue.Duration
import Dialogue.Proofs.Text.Splitting
import Mathlib.Algebra.Ring.Nat

/-!
Lengths of time in decimals. A length is told in the greatest unit of which it has a whole one, to
the last digit that is not zero, so nothing of it is rounded.
-/

namespace Dialogue.Duration

/-- The units in which lengths are told. Each has ten to so many nanoseconds. -/
def units : List (String × Nat) :=
  [("ns", 0), ("µs", 3), ("ms", 6), ("s", 9)]

/-- The unit in which a length is told: it has a whole one of it, unless there is no smaller unit,
and no whole one of any greater unit.
-/
structure ToldIn (d : Duration) (unit : String) (places : Nat) : Prop where
  known : (unit, places) ∈ units
  whole : 10 ^ places ≤ d.nanoseconds ∨ places = 0
  greatest : ∀ other ∈ units, places < other.2 → d.nanoseconds < 10 ^ other.2

/-- The digits behind a point for so many parts of a unit that has ten to `places` of them: with
zeros behind them they are `places` digits and make the number, and none of these zeros is theirs.
-/
structure Fraction (parts places : Nat) (digits : List Char) : Prop where
  makes
    : ∃ zeros,
        digits.length + zeros = places
          ∧ Nat.ofDigitChars 10 (digits ++ List.replicate zeros '0') 0 = parts
  digit : ∀ c ∈ digits, c.isDigit
  ends : digits.getLast? ≠ some '0'

/-- The texts that tell a length: whole units, or whole units and digits behind a point. -/
inductive Tells (d : Duration) : String → Prop
  | whole {unit : String} {places count : Nat} (chosen : d.ToldIn unit places)
    (value : d.nanoseconds = count * 10 ^ places)
    : Tells d (toString count ++ unit)
  | decimal {unit : String} {places count parts : Nat} {digits : List Char}
    (chosen : d.ToldIn unit places) (value : d.nanoseconds = count * 10 ^ places + parts)
    (fraction : Fraction parts places digits) (some : digits ≠ [])
    : Tells d (toString count ++ "." ++ String.ofList digits ++ unit)

/-- The digits that are written behind a point are those of the parts. Witness: the number is filled
with zeros in front to all its places, and then loses those at its end.
-/
theorem fraction_of_lt {parts places : Nat} (fits : parts < 10 ^ places) (some : 0 < places)
    : Fraction parts places
        ((List.replicate (places - (Nat.toDigits 10 parts).length) '0'
          ++ Nat.toDigits 10 parts).rdropWhile (· = '0')) := by
  have short : (Nat.toDigits 10 parts).length ≤ places :=
    (Nat.length_toDigits_le_iff (by decide) some).mpr fits
  generalize filled
    : List.replicate (places - (Nat.toDigits 10 parts).length) '0' ++ Nat.toDigits 10 parts
      = digits
  have long : digits.length = places := by
    rw [← filled, List.length_append, List.length_replicate, Nat.sub_add_cancel short]
  have value : Nat.ofDigitChars 10 digits 0 = parts := by
    rw [← filled, Nat.ofDigitChars_append, Nat.ofDigitChars_replicate_zero, Nat.mul_zero,
      Nat.ofDigitChars_ten_toDigits]
  have digit : ∀ c ∈ digits, c.isDigit := by
    intro c member
    rw [← filled, List.mem_append] at member
    rcases member with zero | member
    · rw [List.eq_of_mem_replicate zero]
      rfl
    · exact Nat.isDigit_of_mem_toDigits (by decide) (by decide) member
  obtain ⟨zeros, parted⟩ := exists_eq_rdropWhile_append_replicate '0' digits
  refine ⟨⟨zeros, ?_, ?_⟩, ?_, getLast?_rdropWhile_ne '0' digits⟩
  · have lengths := congrArg List.length parted
    rw [long, List.length_append, List.length_replicate] at lengths
    exact lengths.symm
  · rw [← parted, value]
  · exact fun c member => digit c ((List.rdropWhile_prefix _ digits).mem member)

/-- No digits stand for no parts. -/
theorem Fraction.eq_zero {parts places : Nat} (fraction : Fraction parts places [])
    : parts = 0 := by
  obtain ⟨zeros, -, value⟩ := fraction.makes
  rw [← value, List.nil_append, Nat.ofDigitChars_replicate_zero, Nat.mul_zero]

/-- A number of nanoseconds is written in a unit as it is told, by cases on whether a part of the
unit remains.
-/
theorem tells_decimalText {d : Duration} {unit : String} {places : Nat}
    (chosen : d.ToldIn unit places) (some : 0 < places)
    : d.Tells (decimalText d.nanoseconds places ++ unit) := by
  have parts := Nat.mod_lt d.nanoseconds (Nat.pow_pos (n := places) (show 0 < 10 by decide))
  have fraction := fraction_of_lt parts some
  have value := (Nat.div_add_mod' d.nanoseconds (10 ^ places)).symm
  unfold decimalText
  simp only [Nat.pow_eq]
  split
  · next none =>
      rw [List.rdropWhile, none] at fraction
      refine .whole chosen ?_
      rwa [fraction.eq_zero] at value
  · next nonempty => exact .decimal chosen value fraction nonempty

/-- A length of less than a thousand of a unit has no whole one of a greater unit. -/
theorem ToldIn.of_lt {d : Duration} {unit : String} {places : Nat}
    (known : (unit, places) ∈ units) (whole : 10 ^ places ≤ d.nanoseconds ∨ places = 0)
    (less : d.nanoseconds < 10 ^ (places + 3))
    : d.ToldIn unit places := by
  refine ⟨known, whole, fun other member greater => ?_⟩
  have thousandfold
      : ∀ one ∈ units, ∀ other ∈ units, one.2 < other.2 → one.2 + 3 ≤ other.2 := by
    decide
  have exponents := thousandfold _ known _ member greater
  exact less.trans_le (Nat.pow_le_pow_right (by decide) exponents)

/-- The text of a length tells it, by cases on its unit. -/
theorem tells_text (d : Duration)
    : d.Tells d.text := by
  unfold text perSecond
  split
  · next long =>
      exact tells_decimalText ⟨by decide, .inl long, by simp [units]⟩ (by decide)
  split
  · next short long =>
      exact tells_decimalText (.of_lt (by decide) (.inl long) (Nat.lt_of_not_le short))
        (by decide)
  split
  · next short long =>
      exact tells_decimalText (.of_lt (by decide) (.inl long) (Nat.lt_of_not_le short))
        (by decide)
  · next short =>
      exact .whole (.of_lt (by decide) (.inr rfl) (Nat.lt_of_not_le short))
        (Nat.mul_one d.nanoseconds).symm

end Dialogue.Duration
