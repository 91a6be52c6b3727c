import Dialogue.Proofs.Text.Splitting
import Dialogue.Text.Unprintable

/-!
Quoted texts can be told apart. The form of a character tells the character and where the form ends,
whatever follows it, and no form begins with a quotation mark; so a quoted text tells the text and
where the quotation ends, and it stands on one line.
-/

namespace Dialogue.Text

-----------------------------------------------------------------------------------------
-- Numbers in digits
-----------------------------------------------------------------------------------------

/-- Decimal digits tell a number. -/
theorem toDigits_ten_injective
    : Function.Injective (Nat.toDigits 10) := by
  intro n m same
  have numbers := congrArg (Nat.ofDigitChars 10 · 0) same
  simpa only [Nat.ofDigitChars_ten_toDigits] using numbers

/-- What is no digit does not stand in a decimal number. -/
theorem not_mem_toDigits_ten {c : Char} (other : c.isDigit = false) (n : Nat)
    : c ∉ Nat.toDigits 10 n := by
  intro member
  have digit := Nat.isDigit_of_mem_toDigits (by decide) (by decide) member
  exact absurd (digit.symm.trans other) (by decide)

/-- The digits below sixteen can be told apart. -/
theorem digitChar_inj {a b : Nat} (left : a < 16) (right : b < 16)
    (same : Nat.digitChar a = Nat.digitChar b)
    : a = b := by
  have distinct : ∀ a < 16, ∀ b < 16, Nat.digitChar a = Nat.digitChar b → a = b := by decide
  exact distinct a left b right same

/-- Hexadecimal digits tell a number, by induction on it: the last digit is told by itself, and the
digits before it tell the rest.
-/
theorem hexadecimal_injective
    : Function.Injective hexadecimal := by
  intro n
  induction n using Nat.strongRecOn with
  | ind n ih =>
      intro m same
      unfold hexadecimal at same ih
      rw [Nat.toDigits_eq_if (by decide), Nat.toDigits_eq_if (n := m) (by decide)] at same
      split at same <;> split at same
      · next small small' => exact digitChar_inj small small' (List.singleton_inj.mp same)
      · next small great =>
          have digits := congrArg List.length same
          have some := List.length_pos_iff.mpr (Nat.toDigits_ne_nil (b := 16) (n := m / 16))
          simp only [List.length_append, List.length_singleton] at digits
          omega
      · next great small =>
          have digits := congrArg List.length same
          have some := List.length_pos_iff.mpr (Nat.toDigits_ne_nil (b := 16) (n := n / 16))
          simp only [List.length_append, List.length_singleton] at digits
          omega
      · next great great' =>
          obtain ⟨before, last⟩ := List.append_inj' same rfl
          have quotients := ih (n / 16) (by omega) before
          have remainders := digitChar_inj (by omega) (by omega) (List.singleton_inj.mp last)
          omega

/-- A sign that is no digit does not stand in a hexadecimal number, by induction on the number. -/
theorem not_mem_hexadecimal {c : Char} (other : ∀ d < 16, Nat.digitChar d ≠ c) (n : Nat)
    : c ∉ hexadecimal n := by
  induction n using Nat.strongRecOn with
  | ind n ih =>
      unfold hexadecimal at ih ⊢
      rw [Nat.toDigits_eq_if (by decide)]
      split
      · next small => exact fun member => other n small (List.mem_singleton.mp member).symm
      · next great =>
          rw [List.mem_append, not_or]
          refine ⟨ih (n / 16) (by omega), fun member => ?_⟩
          exact other (n % 16) (by omega) (List.mem_singleton.mp member).symm

-----------------------------------------------------------------------------------------
-- Forms of characters
-----------------------------------------------------------------------------------------

/-- The characters that are written with a sign of their own, and these signs. -/
def signs : List (Char × Char) :=
  [('\x00', '0'), ('\t', 't'), ('\r', 'r'), ('\n', 'n'), ('"', '"'), ('\\', '\\')]

/-- A character and a form in which it may be quoted: behind a backslash its own sign or its number
between braces, or just the character.
-/
inductive Quotes : Char → List Char → Prop
  | sign {c sign : Char} (own : (c, sign) ∈ signs) : Quotes c ['\\', sign]
  | number (c : Char)
    : Quotes c ('\\' :: 'u' :: '\x7b' :: (hexadecimal c.toNat ++ ['\x7d']))
  | itself {c : Char} (unsigned : ∀ sign, (c, sign) ∉ signs) : Quotes c [c]

/-- A character is quoted in one of its forms, by cases on the character. -/
theorem quotes_quoteChar (c : Char)
    : Quotes c (quoteChar c) := by
  fun_cases quoteChar c with
  | case1 | case2 | case3 | case4 | case5 | case6 => subst c; exact .sign (by decide)
  | case7 => exact .number c
  | case8 =>
      refine .itself ?_
      simp_all [signs]

/-- Two characters with one sign are the same, and no sign announces a number. -/
theorem signs_tell {c d sign : Char} (left : (c, sign) ∈ signs) (right : (d, sign) ∈ signs)
    : c = d := by
  have told : ∀ p ∈ signs, ∀ q ∈ signs, p.2 = q.2 → p.1 = q.1 := by decide
  exact told _ left _ right rfl

/-- No character has the sign with which a number is announced. -/
theorem not_mem_signs_number (c : Char)
    : (c, 'u') ∉ signs := by
  simp [signs]

/-- A form tells its character and where it ends, by cases on both forms. -/
theorem Quotes.append_inj {c d : Char} {form other rest others : List Char}
    (left : Quotes c form) (right : Quotes d other) (same : form ++ rest = other ++ others)
    : c = d ∧ rest = others := by
  have backslash : ('\\', '\\') ∈ signs := by decide
  cases left with
  | sign own =>
      cases right with
      | sign own' =>
          simp only [List.cons_append, List.nil_append, List.cons.injEq, true_and] at same
          obtain ⟨rfl, same⟩ := same
          exact ⟨signs_tell own own', same⟩
      | number =>
          simp only [List.cons_append, List.cons.injEq] at same
          exact absurd (same.2.1 ▸ own) (not_mem_signs_number c)
      | itself unsigned =>
          simp only [List.cons_append, List.cons.injEq] at same
          exact absurd (same.1 ▸ backslash) (unsigned _)
  | number =>
      cases right with
      | sign own' =>
          simp only [List.cons_append, List.cons.injEq] at same
          exact absurd (same.2.1 ▸ own') (not_mem_signs_number d)
      | number =>
          have absent (n : Nat) : '\x7d' ∉ hexadecimal n := not_mem_hexadecimal (by decide) n
          simp only [List.cons_append, List.append_assoc, List.nil_append, List.cons.injEq,
            true_and] at same
          obtain ⟨digits, behind⟩ :=
            append_separator_inj (absent c.toNat) (absent d.toNat) same
          exact ⟨Char.toNat_inj.mp (hexadecimal_injective digits), behind⟩
      | itself unsigned =>
          simp only [List.cons_append, List.cons.injEq] at same
          exact absurd (same.1 ▸ backslash) (unsigned _)
  | itself unsigned =>
      cases right with
      | sign | number =>
          simp only [List.cons_append, List.cons.injEq] at same
          exact absurd (same.1 ▸ backslash) (unsigned _)
      | itself => exact List.cons_eq_cons.mp same

/-- No form begins with a quotation mark. -/
theorem Quotes.append_ne_mark {c : Char} {form rest others : List Char} (quotes : Quotes c form)
    : form ++ rest ≠ '"' :: others := by
  intro same
  cases quotes with
  | sign | number => cases same
  | itself unsigned =>
      have mark : ('"', '"') ∈ signs := by decide
      exact absurd ((List.cons_eq_cons.mp same).1 ▸ mark) (unsigned _)

/-- No form breaks the line. -/
theorem Quotes.newline_not_mem {c : Char} {form : List Char} (quotes : Quotes c form)
    : '\n' ∉ form := by
  cases quotes with
  | sign own =>
      have printable : ∀ p ∈ signs, '\n' ∉ ['\\', p.2] := by decide
      exact printable _ own
  | number =>
      have absent := not_mem_hexadecimal (c := '\n') (by decide) c.toNat
      simpa using absent
  | itself unsigned =>
      intro member
      have newline : ('\n', 'n') ∈ signs := by decide
      exact unsigned _ (List.mem_singleton.mp member ▸ newline)

-----------------------------------------------------------------------------------------
-- Quoted texts
-----------------------------------------------------------------------------------------

/-- The forms of characters up to a quotation mark tell the characters and what is behind the mark,
by induction on the characters.
-/
theorem flatMap_quoteChar_inj {text other rest others : List Char}
    (same : text.flatMap quoteChar ++ '"' :: rest = other.flatMap quoteChar ++ '"' :: others)
    : text = other ∧ rest = others := by
  induction text generalizing other with
  | nil =>
      cases other with
      | nil => exact ⟨rfl, (List.cons_eq_cons.mp same).2⟩
      | cons d other =>
          rw [List.flatMap_cons, List.append_assoc] at same
          exact absurd same.symm (quotes_quoteChar d).append_ne_mark
  | cons c text ih =>
      rw [List.flatMap_cons, List.append_assoc] at same
      cases other with
      | nil => exact absurd same (quotes_quoteChar c).append_ne_mark
      | cons d other =>
          rw [List.flatMap_cons, List.append_assoc] at same
          obtain ⟨rfl, behind⟩ := (quotes_quoteChar c).append_inj (quotes_quoteChar d) same
          obtain ⟨rfl, ended⟩ := ih behind
          exact ⟨rfl, ended⟩

/-- A quoted text tells the text and where the quotation ends. -/
theorem quote_append_inj {text other rest others : List Char}
    : quote text ++ rest = quote other ++ others ↔ text = other ∧ rest = others := by
  constructor
  · intro same
    simp only [quote, List.cons_append, List.append_assoc, List.nil_append, List.cons.injEq,
      true_and] at same
    exact flatMap_quoteChar_inj same
  · rintro ⟨rfl, rfl⟩
    rfl

/-- A quoted text tells the text. -/
theorem quote_injective
    : Function.Injective quote := by
  intro text other same
  have behind : quote text ++ [] = quote other ++ [] := congrArg (· ++ []) same
  exact (quote_append_inj.mp behind).1

/-- A quoted text stands on one line. -/
theorem newline_not_mem_quote (text : List Char)
    : '\n' ∉ quote text := by
  have absent : '\n' ∉ text.flatMap quoteChar := by
    intro member
    obtain ⟨c, -, member⟩ := List.mem_flatMap.mp member
    exact (quotes_quoteChar c).newline_not_mem member
  simpa [quote] using absent

end Dialogue.Text
