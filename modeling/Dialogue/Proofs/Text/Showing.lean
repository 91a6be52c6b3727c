import Dialogue.Proofs.Text.Decoding

/-!
What is shown for octets, which may be no text or only a part of one. A character other than the
replacement character is shown for its own form alone, so what is shown begins with a text just if
the octets begin with its form. Octets with which the form of a text begins are shown as the
characters that they hold whole, and one replacement character if they stop inside the next.
-/

namespace Dialogue.Text

-----------------------------------------------------------------------------------------
-- The character behind the octets read so far
-----------------------------------------------------------------------------------------

/-- A number without the bits of its last so many octets, six for each. -/
def leading : Nat → Nat → Nat
  | 0, n => n
  | owed + 1, n => leading owed n / 64

/-- The last so many octets in the form of a number. -/
def continuations : Nat → Nat → Octets
  | 0, _ => []
  | owed + 1, n => continuation (leading owed n) :: continuations owed n

/-- An unfinished character behind the octets read of it: each number to which they can be carried
on is that of a character, and its form begins with them.
-/
structure Unfinished.Behind (part : Unfinished) (seen : Octets) : Prop where
  owes : 0 < part.owed
  least : 128 ≤ part.least.toNat
  greatest : part.greatest.toNat ≤ 191
  carries
    : ∀ n,
        leading part.owed n = part.value
        → part.Takes (leading (part.owed - 1) n)
        → ∃ c : Char,
            c.toNat = n ∧ String.utf8EncodeChar c = seen ++ continuations part.owed n

/-- An octet that an unfinished character can take is a continuation, with the six bits that it
adds to the number.
-/
theorem Unfinished.Behind.exists_continuation {part : Unfinished} {seen : Octets} {b : UInt8}
    (behind : part.Behind seen) (within : part.least ≤ b ∧ b ≤ part.greatest)
    : b.toNat - 0x80 < 64
        ∧ ∀ n, n % 64 = b.toNat - 0x80 → continuation n = b ∧ part.Takes n := by
  have low := UInt8.le_iff_toNat_le.mp within.1
  have high := UInt8.le_iff_toNat_le.mp within.2
  have least := behind.least
  have greatest := behind.greatest
  refine ⟨by omega, fun n bits => ⟨UInt8.toNat_inj.mp ?_, ?_, ?_⟩⟩
  · rw [toNat_continuation]
    omega
  · omega
  · omega

/-- An unfinished character that takes an octet before its last is behind that octet too. -/
theorem Unfinished.Behind.next {value owed : Nat} {least greatest b : UInt8} {seen : Octets}
    (behind : Unfinished.Behind ⟨value, owed + 2, least, greatest⟩ seen)
    (within : least ≤ b ∧ b ≤ greatest)
    : Unfinished.Behind ⟨value * 64 + (b.toNat - 0x80), owed + 1, 0x80, 0xbf⟩
        (seen ++ [b]) := by
  obtain ⟨small, continues⟩ := behind.exists_continuation within
  refine ⟨Nat.succ_pos owed, Nat.le_refl 128, Nat.le_refl 191, fun n same _ => ?_⟩
  dsimp only at same ⊢
  have bits : leading (owed + 1) n % 64 = b.toNat - 0x80 := by omega
  have front : leading (owed + 2) n = value := by
    rw [leading]
    omega
  obtain ⟨octet, takes⟩ := continues _ bits
  obtain ⟨c, number, form⟩ := behind.carries n front takes
  refine ⟨c, number, form.trans ?_⟩
  rw [continuations, octet, List.append_assoc]
  rfl

/-- An unfinished character that takes its last octet has the form that was read. -/
theorem Unfinished.Behind.last {value : Nat} {least greatest b : UInt8} {seen : Octets}
    (behind : Unfinished.Behind ⟨value, 1, least, greatest⟩ seen)
    (within : least ≤ b ∧ b ≤ greatest)
    : String.utf8EncodeChar (Char.ofNat (value * 64 + (b.toNat - 0x80))) = seen ++ [b] := by
  obtain ⟨small, continues⟩ := behind.exists_continuation within
  generalize whole : value * 64 + (b.toNat - 0x80) = n
  have bits : leading 0 n % 64 = b.toNat - 0x80 := by
    rw [leading]
    omega
  have front : leading 1 n = value := by
    rw [leading, leading]
    omega
  obtain ⟨octet, takes⟩ := continues _ bits
  obtain ⟨c, rfl, form⟩ := behind.carries n front takes
  rw [Char.ofNat_toNat, form, continuations, octet]
  rfl

/-- There is a character for each number that is one's. -/
theorem exists_toNat_eq {n : Nat} (valid : n.isValidChar)
    : ∃ c : Char, c.toNat = n :=
  ⟨Char.ofNatAux n valid, rfl⟩

/-- An octet that is a character by itself is its form. -/
theorem encodeChar_of_whole {b : UInt8} {c : Char} (lead : Lead.ofOctet b = .whole c)
    : String.utf8EncodeChar c = [b] := by
  have ascii : b.toNat < 128 ∧ Char.ofNat b.toNat = c := by
    simp only [Lead.ofOctet] at lead
    split at lead
    · next small => exact ⟨small, Lead.whole.inj lead⟩
    · repeat' split at lead
      all_goals cases lead
  obtain ⟨small, rfl⟩ := ascii
  obtain ⟨c, number⟩ := exists_toNat_eq (n := b.toNat) (.inl (by omega))
  rw [← number, Char.ofNat_toNat, encodeChar_eq, number, if_pos (Nat.le_of_lt_succ small),
    UInt8.ofNat_toNat]

/-- The first octet of a form of two leaves the character unfinished behind it. -/
theorem Unfinished.behind_two {b : UInt8} {value : Nat} (first : b.toNat = value + 0xc0)
    (least : 2 ≤ value) (greatest : value < 32)
    : Unfinished.Behind ⟨value, 1, 0x80, 0xbf⟩ [b] := by
  refine ⟨Nat.one_pos, Nat.le_refl 128, Nat.le_refl 191, fun n front _ => ?_⟩
  dsimp only [leading] at front ⊢
  have valid : n.isValidChar := by
    unfold Nat.isValidChar
    omega
  have octet : n / 64 % 32 + 0xc0 = b.toNat := by omega
  obtain ⟨c, rfl⟩ := exists_toNat_eq valid
  refine ⟨c, rfl, ?_⟩
  rw [encodeChar_eq, if_neg (by omega), if_pos (by omega), octet, UInt8.ofNat_toNat]
  rfl

/-- The first octet of a form of three leaves the character unfinished behind it, if the range of
the next one shuts out what is no such character.
-/
theorem Unfinished.behind_three {b low high : UInt8} {value : Nat}
    (first : b.toNat = value + 0xe0) (small : value < 16) (least : 128 ≤ low.toNat)
    (greatest : high.toNat ≤ 191)
    (shuts
      : ∀ n,
          n / 64 / 64 = value
          → low.toNat ≤ n / 64 % 64 + 128
          → n / 64 % 64 + 128 ≤ high.toNat
          → 2048 ≤ n ∧ n.isValidChar)
    : Unfinished.Behind ⟨value, 2, low, high⟩ [b] := by
  refine ⟨Nat.two_pos, least, greatest, fun n front takes => ?_⟩
  dsimp only [leading, Nat.add_one_sub_one] at front takes ⊢
  obtain ⟨large, valid⟩ := shuts n front takes.least takes.greatest
  have octet : n / 4096 % 16 + 0xe0 = b.toNat := by omega
  obtain ⟨c, rfl⟩ := exists_toNat_eq valid
  refine ⟨c, rfl, ?_⟩
  rw [encodeChar_eq, if_neg (by omega), if_neg (by omega), if_pos (by omega), octet,
    UInt8.ofNat_toNat]
  rfl

/-- The first octet of a form of four leaves the character unfinished behind it, if the range of
the next one shuts out what is no such character.
-/
theorem Unfinished.behind_four {b low high : UInt8} {value : Nat}
    (first : b.toNat = value + 0xf0) (small : value < 8) (least : 128 ≤ low.toNat)
    (greatest : high.toNat ≤ 191)
    (shuts
      : ∀ n,
          n / 64 / 64 / 64 = value
          → low.toNat ≤ n / 64 / 64 % 64 + 128
          → n / 64 / 64 % 64 + 128 ≤ high.toNat
          → 65536 ≤ n ∧ n.isValidChar)
    : Unfinished.Behind ⟨value, 3, low, high⟩ [b] := by
  refine ⟨Nat.succ_pos 2, least, greatest, fun n front takes => ?_⟩
  dsimp only [leading, Nat.add_one_sub_one] at front takes ⊢
  obtain ⟨large, valid⟩ := shuts n front takes.least takes.greatest
  have octet : n / 262144 % 8 + 0xf0 = b.toNat := by omega
  have second : n / 4096 = n / 64 / 64 := by omega
  obtain ⟨c, rfl⟩ := exists_toNat_eq valid
  refine ⟨c, rfl, ?_⟩
  rw [encodeChar_eq, if_neg (by omega), if_neg (by omega), if_neg (by omega), octet, second,
    UInt8.ofNat_toNat]
  rfl

/-- The first octet of a longer character leaves it unfinished behind that octet, by cases on what
the octet announces.
-/
theorem Unfinished.behind_of_start {b : UInt8} {part : Unfinished}
    (lead : Lead.ofOctet b = .start part)
    : part.Behind [b] := by
  simp only [Lead.ofOctet] at lead
  split at lead
  · cases lead
  split at lead
  · cases lead
  split at lead
  · obtain rfl := Lead.start.inj lead
    exact behind_two (by omega) (by omega) (by omega)
  -- Three octets: those behind 0xe0 shut out overlong forms, those behind 0xed surrogates.
  split at lead
  · obtain rfl := Lead.start.inj lead
    refine behind_three (by omega) (by omega) (by decide) (by decide) fun n front low _ => ?_
    change 160 ≤ _ at low
    exact ⟨by omega, .inl (by omega)⟩
  split at lead
  · obtain rfl := Lead.start.inj lead
    refine behind_three (by omega) (by omega) (by decide) (by decide) fun n front _ high => ?_
    change _ ≤ 159 at high
    exact ⟨by omega, .inl (by omega)⟩
  split at lead
  · obtain rfl := Lead.start.inj lead
    refine behind_three (by omega) (by omega) (by decide) (by decide) fun n front _ _ => ?_
    unfold Nat.isValidChar
    omega
  -- Four octets: those behind 0xf0 shut out overlong forms, those behind 0xf4 what is past the end.
  split at lead
  · obtain rfl := Lead.start.inj lead
    refine behind_four (by omega) (by omega) (by decide) (by decide) fun n front low _ => ?_
    change 144 ≤ _ at low
    exact ⟨by omega, .inr (by omega)⟩
  split at lead
  · obtain rfl := Lead.start.inj lead
    refine behind_four (by omega) (by omega) (by decide) (by decide) fun n front _ _ => ?_
    exact ⟨by omega, .inr (by omega)⟩
  split at lead
  · obtain rfl := Lead.start.inj lead
    refine behind_four (by omega) (by omega) (by decide) (by decide) fun n front _ high => ?_
    change _ ≤ 143 at high
    exact ⟨by omega, .inr (by omega)⟩
  · cases lead

-----------------------------------------------------------------------------------------
-- From what is shown to the octets
-----------------------------------------------------------------------------------------

/-- Where an unfinished character comes to be shown, its form stands in the octets; by induction on
those still to be read. Where one of them cannot be taken, or there is none, the replacement
character is shown.
-/
theorem Unfinished.Behind.exists_encodeChar_append {part : Unfinished} {seen octets : Octets}
    {c : Char} {text : List Char} (behind : part.Behind seen)
    (read : decodeFrom (some part) octets = c :: text) (other : c ≠ replacement)
    : ∃ rest, seen ++ octets = String.utf8EncodeChar c ++ rest
        ∧ decodeFrom none rest = text := by
  induction octets generalizing part seen with
  | nil =>
      cases read
      exact absurd rfl other
  | cons b octets ih =>
      rw [decodeFrom, advance] at read
      by_cases within : part.least ≤ b ∧ b ≤ part.greatest
      · rw [if_pos within] at read
        obtain ⟨value, owed, least, greatest⟩ := part
        rcases owed with _ | _ | owed
        · exact absurd behind.owes (Nat.lt_irrefl 0)
        · obtain ⟨rfl, rfl⟩ := List.cons.inj read
          refine ⟨octets, ?_, rfl⟩
          rw [behind.last within, List.append_assoc]
          rfl
        · obtain ⟨rest, split, decoded⟩ := ih (behind.next within) read
          refine ⟨rest, ?_, decoded⟩
          rw [← split, List.append_assoc]
          rfl
      · rw [if_neg within] at read
        exact absurd (List.cons.inj read).1.symm other

/-- The first character that is shown is the replacement character, or the octets begin with its
form and the rest is shown for what comes behind it; by cases on what the first octet announces.
-/
theorem exists_encodeChar_append {octets : Octets} {c : Char} {text : List Char}
    (read : decodeFrom none octets = c :: text) (other : c ≠ replacement)
    : ∃ rest, octets = String.utf8EncodeChar c ++ rest ∧ decodeFrom none rest = text := by
  cases octets with
  | nil => cases read
  | cons b octets =>
      cases lead : Lead.ofOctet b with
      | whole whole =>
          rw [decodeFrom, advance, begin, lead] at read
          obtain ⟨rfl, decoded⟩ := List.cons.inj read
          exact ⟨octets, by rw [encodeChar_of_whole lead]; rfl, decoded⟩
      | start part =>
          rw [decodeFrom_start lead] at read
          exact (Unfinished.behind_of_start lead).exists_encodeChar_append read other
      | illFormed =>
          rw [decodeFrom, advance, begin, lead] at read
          exact absurd (List.cons.inj read).1.symm other

/-- What is shown for octets begins with a text without replacement characters exactly if the octets
begin with its form; by induction on the text.
-/
theorem prefix_decodeLossy_iff {text : List Char} (legible : replacement ∉ text)
    {octets : Octets}
    : text <+: decodeLossy octets ↔ encode text <+: octets := by
  constructor
  · rintro ⟨shown, read⟩
    induction text generalizing octets with
    | nil => exact List.nil_prefix
    | cons c text ih =>
        have other : c ≠ replacement := fun same => legible (same ▸ List.mem_cons_self)
        obtain ⟨rest, rfl, decoded⟩ := exists_encodeChar_append read.symm other
        rw [encode_cons, List.prefix_append_right_inj]
        exact ih (fun member => legible (List.mem_cons_of_mem c member)) decoded.symm
  · rintro ⟨rest, rfl⟩
    rw [decodeLossy_encode_append]
    exact List.prefix_append text _

/-- The condition is needed: an ill-formed octet is shown as a replacement character too. -/
example : [replacement] <+: decodeLossy [0xff] ∧ ¬ encode [replacement] <+: [0xff] := by
  decide

-----------------------------------------------------------------------------------------
-- Beginnings of a text
-----------------------------------------------------------------------------------------

/-- An octet that completes nothing leaves a character unfinished, by cases on where it is read. -/
theorem advance_of_silent {part : Option Unfinished} {b : UInt8}
    (silent : (advance part b).1 = [])
    : (advance part b).2 ≠ none := by
  cases part with
  | none =>
      rw [advance, begin] at silent ⊢
      cases lead : Lead.ofOctet b <;> simp [lead] at silent ⊢
  | some part =>
      rw [advance] at silent ⊢
      by_cases within : part.least ≤ b ∧ b ≤ part.greatest
      · rw [if_pos within] at silent ⊢
        by_cases last : part.owed ≤ 1 <;> simp [last] at silent ⊢
      · rw [if_neg within] at silent
        cases silent

/-- Octets are read up to where more can follow them: something is shown for them by then, or a
character is unfinished, or there are none; by induction on the octets.
-/
theorem exists_decodeFrom_append (part : Option Unfinished) (octets : Octets)
    : ∃ shown next,
        (∀ more, decodeFrom part (octets ++ more) = shown ++ decodeFrom next more)
          ∧ (shown = [] → next = none → part = none ∧ octets = []) := by
  induction octets generalizing part with
  | nil => exact ⟨[], part, fun _ => rfl, fun _ none => ⟨none, rfl⟩⟩
  | cons b octets ih =>
      obtain ⟨shown, next, read, progress⟩ := ih (advance part b).2
      refine ⟨(advance part b).1 ++ shown, next, fun more => ?_, fun silent none => ?_⟩
      · rw [List.cons_append, decodeFrom]
        dsimp only
        rw [read, List.append_assoc]
      · obtain ⟨first, silent⟩ := List.append_eq_nil_iff.mp silent
        exact absurd (progress silent none).1 (advance_of_silent first)

/-- Something is shown for any octets, and for an unfinished character without more of them. -/
theorem eq_nil_of_decodeFrom_eq_nil {part : Option Unfinished} {octets : Octets}
    (silent : decodeFrom part octets = [])
    : part = none ∧ octets = [] := by
  obtain ⟨shown, next, read, progress⟩ := exists_decodeFrom_append part octets
  have whole := read []
  rw [List.append_nil, silent] at whole
  obtain ⟨first, last⟩ := List.append_eq_nil_iff.mp whole.symm
  cases next with
  | none => exact progress first rfl
  | some part => cases last

/-- A part of a character is shown as one replacement character. Witness: nothing can be shown for
it yet, since the rest of the character gives the character and no more.
-/
theorem decodeLossy_of_inside {c : Char} {part : Octets} (some : part ≠ [])
    (within : part <+: String.utf8EncodeChar c) (short : part ≠ String.utf8EncodeChar c)
    : decodeLossy part = [replacement] := by
  obtain ⟨more, whole⟩ := within
  obtain ⟨shown, next, read, progress⟩ := exists_decodeFrom_append none part
  have all : shown ++ decodeFrom next more = [c] := by
    rw [← read, whole, ← List.append_nil (String.utf8EncodeChar c), decodeFrom_encodeChar]
    rfl
  have missing : decodeFrom next more ≠ [] := by
    intro silent
    obtain ⟨-, rfl⟩ := eq_nil_of_decodeFrom_eq_nil silent
    exact short ((List.append_nil part).symm.trans whole)
  have nothing : shown = [] := by
    rcases List.append_eq_singleton_iff.mp all with ⟨nothing, -⟩ | ⟨-, silent⟩
    · exact nothing
    · exact absurd silent missing
  cases next with
  | none => exact absurd (progress nothing rfl).2 some
  | some unfinished =>
      have cut := read []
      rw [List.append_nil, nothing] at cut
      exact cut

/-- What is shown for octets with which the form of a text begins: characters of the text, and
behind them one replacement character just if the octets stop inside the next one.
-/
inductive ShownBeginning (text : List Char) : Octets → List Char → Prop
  | whole {front : List Char} (begins : front <+: text)
    : ShownBeginning text (encode front) front
  | inside {front : List Char} {next : Char} {part : Octets} (begins : front ++ [next] <+: text)
    (some : part ≠ []) (within : part <+: String.utf8EncodeChar next)
    (short : part ≠ String.utf8EncodeChar next)
    : ShownBeginning text (encode front ++ part) (front ++ [replacement])

/-- A character in front of a text and of what is shown is shown itself. -/
theorem ShownBeginning.cons {text shown : List Char} {octets : Octets}
    (beginning : ShownBeginning text octets shown) (c : Char)
    : ShownBeginning (c :: text) (String.utf8EncodeChar c ++ octets) (c :: shown) := by
  cases beginning with
  | whole begins =>
      have longer : c :: shown <+: c :: text := List.cons_prefix_cons.mpr ⟨rfl, begins⟩
      exact .whole longer
  | inside begins some within short =>
      rw [← List.append_assoc, ← encode_cons, ← List.cons_append]
      exact .inside (List.cons_prefix_cons.mpr ⟨rfl, begins⟩) some within short

/-- What is shown for octets with which the form of a text begins is as it says, by induction on
the text: the octets end within its first character or go on behind it.
-/
theorem shownBeginning_decodeLossy {text : List Char} {octets : Octets}
    (begins : octets <+: encode text)
    : ShownBeginning text octets (decodeLossy octets) := by
  induction text generalizing octets with
  | nil =>
      obtain rfl := List.prefix_nil.mp begins
      exact .whole (List.prefix_refl [])
  | cons c text ih =>
      rw [encode_cons] at begins
      by_cases reaches : String.utf8EncodeChar c <+: octets
      · obtain ⟨rest, rfl⟩ := reaches
        have shown : decodeLossy (String.utf8EncodeChar c ++ rest) = c :: decodeLossy rest :=
          decodeFrom_encodeChar c rest
        rw [shown]
        exact (ih ((List.prefix_append_right_inj _).mp begins)).cons c
      · have within : octets <+: String.utf8EncodeChar c :=
          (List.prefix_or_prefix_of_prefix begins (List.prefix_append _ _)).resolve_right reaches
        have short : octets ≠ String.utf8EncodeChar c :=
          fun same => reaches (same ▸ List.prefix_refl octets)
        by_cases nothing : octets = []
        · exact nothing ▸ .whole List.nil_prefix
        · have first : [] ++ [c] <+: c :: text := List.prefix_append [c] text
          rw [decodeLossy_of_inside nothing within short]
          exact .inside first nothing within short

/-- Two octets of a character of three came behind a whole one. -/
example : decodeLossy [0x6e, 0xe2, 0x82] = ['n', replacement] := by
  decide

end Dialogue.Text
