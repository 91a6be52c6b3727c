import Dialogue.Settings
import Mathlib.Algebra.Order.Field.Power
import Mathlib.Tactic.Linarith
import Mathlib.Tactic.Positivity
import Mathlib.Tactic.Ring

/-!
Limits from numbers of seconds. A number of the binary64 format has a rational value unless it is
infinite or none; it gives a limit if that value is above zero and the nearest count of nanoseconds
is not too long. The limit is that count, which is zero for the least numbers.
-/

namespace Dialogue.Number

-----------------------------------------------------------------------------------------
-- Nearest natural numbers
-----------------------------------------------------------------------------------------

/-- A natural number is nearest to a rational one; a half goes to the even one. -/
structure Nearest (q : ℚ) (n : ℕ) : Prop where
  close : |(n : ℚ) - q| ≤ 1 / 2
  even : |(n : ℚ) - q| = 1 / 2 → n % 2 = 0

/-- Only one number is nearest: two would be neighbours, with the half between them. -/
theorem Nearest.unique {q : ℚ} {m n : ℕ} (left : Nearest q m) (right : Nearest q n)
    : m = n := by
  have below := abs_le.mp left.close
  have above := abs_le.mp right.close
  have near : (m : ℚ) ≤ n + 1 ∧ (n : ℚ) ≤ m + 1 := by constructor <;> linarith
  have near : m ≤ n + 1 ∧ n ≤ m + 1 := by exact_mod_cast near
  have apart {a b : ℕ} (next : a = b + 1) (first : Nearest q a) (second : Nearest q b)
      : False := by
    have := abs_le.mp first.close
    have := abs_le.mp second.close
    have cast : (a : ℚ) = b + 1 := by exact_mod_cast next
    have half : (b : ℚ) - q = -(1 / 2) := by linarith
    have half' : (a : ℚ) - q = 1 / 2 := by linarith
    have even := second.even (by rw [half]; norm_num)
    have even' := first.even (by rw [half']; norm_num)
    omega
  rcases Nat.lt_trichotomy m n with less | same | more
  · exact (apart (by omega) right left).elim
  · exact same
  · exact (apart (by omega) left right).elim

/-- Up to a half above a number, that number is nearest. -/
theorem nearest_below {n : ℕ} {fraction : ℚ} (nonneg : 0 ≤ fraction) (least : fraction ≤ 1 / 2)
    (even : fraction = 1 / 2 → n % 2 = 0)
    : Nearest (n + fraction) n := by
  have distance : |(n : ℚ) - (n + fraction)| = fraction := by
    rw [sub_add_cancel_left, abs_neg, abs_of_nonneg nonneg]
  exact ⟨distance.trans_le least, fun half => even (distance.symm.trans half)⟩

/-- From a half above a number on, the next number is nearest. -/
theorem nearest_above {n : ℕ} {fraction : ℚ} (most : 1 / 2 ≤ fraction) (less : fraction < 1)
    (even : fraction = 1 / 2 → (n + 1) % 2 = 0)
    : Nearest (n + fraction) (n + 1) := by
  have distance : |((n + 1 : ℕ) : ℚ) - (n + fraction)| = 1 - fraction := by
    rw [Nat.cast_add, Nat.cast_one, add_sub_add_left_eq_sub, abs_of_nonneg (by linarith)]
  refine ⟨by linarith, fun half => even ?_⟩
  linarith

/-- A quotient is rounded to the nearest number, by cases on whether the remainder makes more than
half of the way to the next one.
-/
theorem nearest_roundHalfEven (numerator : ℕ) {denominator : ℕ} (positive : 0 < denominator)
    : Nearest (numerator / denominator) (roundHalfEven numerator denominator) := by
  have positive' : (0 : ℚ) < denominator := by exact_mod_cast positive
  have cut : (numerator : ℚ) / denominator
      = (numerator / denominator : ℕ) + (numerator % denominator : ℕ) / (denominator : ℚ) := by
    have whole := Nat.div_add_mod numerator denominator
    rw [eq_comm, add_div_eq_mul_add_div _ _ positive'.ne', mul_comm]
    congr 1
    exact_mod_cast whole
  have less := Nat.mod_lt numerator positive
  unfold roundHalfEven
  rw [cut]
  generalize numerator / denominator = quotient at *
  generalize numerator % denominator = remainder at *
  have half_iff : (remainder : ℚ) / denominator = 1 / 2 ↔ remainder * 2 = 1 * denominator := by
    rw [div_eq_div_iff positive'.ne' two_ne_zero]
    exact_mod_cast Iff.rfl
  dsimp only
  split
  · next more =>
      refine nearest_above ?_ ?_ fun half => ?_
      · rw [div_le_div_iff₀ two_pos positive']
        exact_mod_cast (by omega : 1 * denominator ≤ remainder * 2)
      · rw [div_lt_one positive']
        exact_mod_cast less
      · have := half_iff.mp half
        omega
  · next few =>
      refine nearest_below (by positivity) ?_ fun half => ?_
      · rw [div_le_div_iff₀ positive' two_pos]
        exact_mod_cast (by omega : remainder * 2 ≤ 1 * denominator)
      · have := half_iff.mp half
        omega

/-- A positive number is rounded to zero just if it is at most a half. -/
theorem Nearest.eq_zero_iff {q : ℚ} {n : ℕ} (positive : 0 < q) (nearest : Nearest q n)
    : n = 0 ↔ q ≤ 1 / 2 := by
  have size : |((0 : ℕ) : ℚ) - q| = q := by
    rw [Nat.cast_zero, zero_sub, abs_neg, abs_of_pos positive]
  constructor
  · rintro rfl
    exact size ▸ nearest.close
  · intro least
    exact nearest.unique ⟨size.trans_le least, fun _ => rfl⟩

-----------------------------------------------------------------------------------------
-- Values of binary64 numbers
-----------------------------------------------------------------------------------------

/-- The value of a number, unless it is infinite or none. -/
def Binary64.value? : Binary64 → Option ℚ
  | .finite negative significand exponent =>
    some ((if negative then -1 else 1) * (significand * 2 ^ exponent))
  | .nan | .infinite _ => none

/-- A power of two is the quotient of two whole ones, one of which is one. -/
theorem two_zpow_eq (exponent : Int)
    : (2 : ℚ) ^ exponent
      = (Nat.pow 2 exponent.toNat : ℕ) / (Nat.pow 2 (-exponent).toNat : ℕ) := by
  rcases le_total 0 exponent with up | down
  · obtain ⟨n, rfl⟩ := Int.eq_ofNat_of_zero_le up
    simp
  · obtain ⟨n, same⟩ := Int.eq_ofNat_of_zero_le (neg_nonneg.mpr down)
    obtain rfl : exponent = -n := by omega
    simp

/-- The count of nanoseconds that is worked out is the one nearest to the value. -/
theorem nearest_nanoseconds (significand : ℕ) (exponent : Int)
    : Nearest (significand * 2 ^ exponent * 10 ^ 9)
        (roundHalfEven (significand * Duration.perSecond * Nat.pow 2 exponent.toNat)
          (Nat.pow 2 (-exponent).toNat)) := by
  have nearest := nearest_roundHalfEven
    (significand * Duration.perSecond * Nat.pow 2 exponent.toNat)
    (Nat.pow_pos (n := (-exponent).toNat) two_pos)
  have same
      : (significand * 2 ^ exponent * 10 ^ 9 : ℚ)
        = (significand * Duration.perSecond * Nat.pow 2 exponent.toNat : ℕ)
          / (Nat.pow 2 (-exponent).toNat : ℕ) := by
    rw [two_zpow_eq, Duration.perSecond]
    push_cast
    ring
  rwa [same]

-----------------------------------------------------------------------------------------
-- Limits
-----------------------------------------------------------------------------------------

/-- The limit that a number of seconds gives, if it gives one. -/
def Binary64.limit? (seconds : Binary64) : Option Duration :=
  if seconds.isPositive then Duration.ofSeconds? seconds else none

/-- A number of seconds gives a limit: its value is above zero, and the limit is the nearest count
of nanoseconds, which has fewer than `2 ^ 64` seconds.
-/
inductive Gives (seconds : Binary64) (limit : Duration) : Prop
  | intro {q : ℚ} (value : seconds.value? = some q) (positive : 0 < q)
    (nearest : Nearest (q * 10 ^ 9) limit.nanoseconds)
    (short : limit.nanoseconds < 2 ^ 64 * 10 ^ 9)

/-- A number of seconds gives no limit: it is infinite or none, or not above zero, or too great. -/
inductive Unfit : Binary64 → Prop
  | nan : Unfit .nan
  | infinite (negative : Bool) : Unfit (.infinite negative)
  | notPositive {seconds : Binary64} {q : ℚ} (value : seconds.value? = some q) (least : q ≤ 0)
    : Unfit seconds
  | tooGreat {seconds : Binary64} {q : ℚ} {nanoseconds : ℕ} (value : seconds.value? = some q)
    (positive : 0 < q) (nearest : Nearest (q * 10 ^ 9) nanoseconds)
    (long : 2 ^ 64 * 10 ^ 9 ≤ nanoseconds)
    : Unfit seconds

variable {seconds : Binary64} {q : ℚ}

/-- A number with a value above zero has no sign and some significand. -/
theorem eq_finite_of_positive (value : seconds.value? = some q) (positive : 0 < q)
    : ∃ significand exponent,
        seconds = .finite false significand exponent
          ∧ significand ≠ 0
          ∧ q = significand * 2 ^ exponent := by
  cases seconds with
  | nan | infinite => cases value
  | finite negative significand exponent =>
      obtain rfl := Option.some.inj value
      have least : (0 : ℚ) ≤ significand * 2 ^ exponent := by positivity
      cases negative with
      | true =>
          rw [if_pos rfl, neg_one_mul] at positive
          linarith
      | false =>
          rw [if_neg Bool.false_ne_true, one_mul] at positive ⊢
          refine ⟨significand, exponent, rfl, ?_, rfl⟩
          rintro rfl
          rw [Nat.cast_zero, zero_mul] at positive
          exact lt_irrefl _ positive

/-- To a number of seconds above zero there is a nearest count of nanoseconds. -/
theorem exists_nearest (value : seconds.value? = some q) (positive : 0 < q)
    : ∃ nanoseconds, Nearest (q * 10 ^ 9) nanoseconds := by
  obtain ⟨significand, exponent, -, -, rfl⟩ := eq_finite_of_positive value positive
  exact ⟨_, nearest_nanoseconds significand exponent⟩

/-- A number above zero gives the nearest count of nanoseconds, unless that is too long. -/
theorem limit?_of_positive (value : seconds.value? = some q) (positive : 0 < q)
    {nanoseconds : ℕ} (nearest : Nearest (q * 10 ^ 9) nanoseconds)
    : seconds.limit? = if nanoseconds < Duration.limit then some ⟨nanoseconds⟩ else none := by
  obtain ⟨significand, exponent, rfl, significant, rfl⟩ := eq_finite_of_positive value positive
  have count := nearest.unique (nearest_nanoseconds significand exponent)
  simp [Binary64.limit?, Binary64.isPositive, Duration.ofSeconds?, significant, count]

/-- A number that is not above zero gives no limit. -/
theorem limit?_of_not_positive (value : seconds.value? = some q) (least : q ≤ 0)
    : seconds.limit? = none := by
  cases seconds with
  | nan | infinite => cases value
  | finite negative significand exponent =>
      obtain rfl := Option.some.inj value
      cases negative with
      | true => rfl
      | false =>
          rw [if_neg Bool.false_ne_true, one_mul] at least
          have zero : significand = 0 := by
            by_contra significant
            have above : (0 : ℚ) < significand := by exact_mod_cast Nat.pos_of_ne_zero significant
            exact absurd least (not_le_of_gt (mul_pos above (zpow_pos two_pos exponent)))
          rw [zero]
          rfl

/-- What a number is said to give is the limit that is worked out. -/
theorem Gives.determines {limit : Duration} (gives : Gives seconds limit)
    : seconds.limit? = some limit := by
  obtain ⟨value, positive, nearest, short⟩ := gives
  rw [limit?_of_positive value positive nearest]
  exact if_pos short

/-- For a number that is said to give none no limit is worked out, by cases on why. -/
theorem Unfit.determines (unfit : Unfit seconds)
    : seconds.limit? = none := by
  cases unfit with
  | nan => rfl
  | infinite negative => cases negative <;> rfl
  | notPositive value least => exact limit?_of_not_positive value least
  | tooGreat value positive nearest long =>
      rw [limit?_of_positive value positive nearest]
      exact if_neg (not_lt_of_ge long)

/-- Every number gives a limit or is unfit for one. -/
theorem gives_or_unfit (seconds : Binary64)
    : (∃ limit, Gives seconds limit) ∨ Unfit seconds := by
  cases seconds with
  | nan => exact .inr .nan
  | infinite negative => exact .inr (.infinite negative)
  | finite negative significand exponent =>
      obtain ⟨q, value⟩ : ∃ q, (Binary64.finite negative significand exponent).value? = some q :=
        ⟨_, rfl⟩
      rcases le_or_gt q 0 with least | positive
      · exact .inr (.notPositive value least)
      · obtain ⟨nanoseconds, nearest⟩ := exists_nearest value positive
        rcases Nat.lt_or_ge nanoseconds (2 ^ 64 * 10 ^ 9) with short | long
        · exact .inl ⟨⟨nanoseconds⟩, .intro value positive nearest short⟩
        · exact .inr (.tooGreat value positive nearest long)

/-- The limit that is worked out is just the one that a number gives. -/
theorem limit?_eq_some_iff {limit : Duration}
    : seconds.limit? = some limit ↔ Gives seconds limit := by
  refine ⟨fun same => ?_, Gives.determines⟩
  rcases gives_or_unfit seconds with ⟨other, gives⟩ | unfit
  · obtain rfl := Option.some.inj (gives.determines.symm.trans same)
    exact gives
  · cases unfit.determines.symm.trans same

/-- No limit is worked out just for what is unfit for one. -/
theorem limit?_eq_none_iff
    : seconds.limit? = none ↔ Unfit seconds := by
  refine ⟨fun same => ?_, Unfit.determines⟩
  rcases gives_or_unfit seconds with ⟨limit, gives⟩ | unfit
  · cases gives.determines.symm.trans same
  · exact unfit

end Dialogue.Number
