import Dialogue.Text.Octets

/-!
Text that is written and read again. Reading the form of a character gives back the character and
goes on behind it, so the lossy reading of written text is the text, whatever octets come after it,
and the octets that can be read without loss are those of some text.
-/

namespace Dialogue.Text

-----------------------------------------------------------------------------------------
-- Octets behind the first
-----------------------------------------------------------------------------------------

/-- The octet with the last six bits of a number, as it stands behind the first of a character. -/
def continuation (n : Nat) : UInt8 :=
  UInt8.ofNat (n % 64 + 128)

/-- A continuation has six bits of its number and says that it is one. -/
theorem toNat_continuation (n : Nat)
    : (continuation n).toNat = n % 64 + 128 := by
  have small : n % 64 + 128 < 256 := by omega
  exact UInt8.toNat_ofNat_of_lt' small

/-- The form of a character, by how many octets it has. -/
theorem encodeChar_eq (c : Char)
    : String.utf8EncodeChar c
      = if c.toNat ≤ 127 then [UInt8.ofNat c.toNat]
        else if c.toNat ≤ 2047 then
          [UInt8.ofNat (c.toNat / 64 % 32 + 0xc0), continuation c.toNat]
        else if c.toNat ≤ 65535 then
          [UInt8.ofNat (c.toNat / 4096 % 16 + 0xe0), continuation (c.toNat / 64),
            continuation c.toNat]
        else
          [UInt8.ofNat (c.toNat / 262144 % 8 + 0xf0), continuation (c.toNat / 4096),
            continuation (c.toNat / 64), continuation c.toNat] :=
  rfl

/-- Where an unfinished character can go on. -/
structure Unfinished.Takes (part : Unfinished) (n : Nat) : Prop where
  least : part.least.toNat ≤ n % 64 + 128
  greatest : n % 64 + 128 ≤ part.greatest.toNat

/-- An unfinished character that is past its second octet goes on with any continuation. -/
theorem Unfinished.takes_any (value owed n : Nat)
    : Unfinished.Takes ⟨value, owed, 0x80, 0xbf⟩ n where
  least := Nat.le_add_left 128 (n % 64)
  greatest := by
    change n % 64 + 128 ≤ 191
    omega

/-- A continuation that an unfinished character can take completes it or brings it forward. -/
theorem advance_of_takes {part : Unfinished} {n : Nat} (takes : part.Takes n)
    : advance (some part) (continuation n)
      = if part.owed ≤ 1 then ([Char.ofNat (part.value * 64 + n % 64)], none)
        else ([], some ⟨part.value * 64 + n % 64, part.owed - 1, 0x80, 0xbf⟩) := by
  have within : part.least ≤ continuation n ∧ continuation n ≤ part.greatest := by
    rw [UInt8.le_iff_toNat_le, UInt8.le_iff_toNat_le, toNat_continuation]
    exact ⟨takes.least, takes.greatest⟩
  simp only [advance, within, and_self, if_true, toNat_continuation, Nat.add_sub_cancel]

/-- The last octet of a character completes it. -/
theorem decodeFrom_last {n : Nat} {least greatest : UInt8}
    (takes : Unfinished.Takes ⟨n / 64, 1, least, greatest⟩ n) (rest : Octets)
    : decodeFrom (some ⟨n / 64, 1, least, greatest⟩) (continuation n :: rest)
      = Char.ofNat n :: decodeFrom none rest := by
  rw [decodeFrom, advance_of_takes takes]
  simp only [Nat.le_refl, if_true, Nat.div_add_mod', List.singleton_append]

/-- An octet before the last brings a character forward. -/
theorem decodeFrom_more {n owed : Nat} {least greatest : UInt8}
    (takes : Unfinished.Takes ⟨n / 64, owed + 2, least, greatest⟩ n) (rest : Octets)
    : decodeFrom (some ⟨n / 64, owed + 2, least, greatest⟩) (continuation n :: rest)
      = decodeFrom (some ⟨n, owed + 1, 0x80, 0xbf⟩) rest := by
  have more : ¬ owed + 2 ≤ 1 := by omega
  rw [decodeFrom, advance_of_takes takes]
  simp only [more, if_false, Nat.div_add_mod', List.nil_append]
  rfl

-----------------------------------------------------------------------------------------
-- First octets
-----------------------------------------------------------------------------------------

/-- The octet below 128 is a character by itself. -/
theorem ofOctet_whole {n : Nat} (small : n < 128)
    : Lead.ofOctet (UInt8.ofNat n) = .whole (Char.ofNat n) := by
  have same : (UInt8.ofNat n).toNat = n := UInt8.toNat_ofNat_of_lt' (by change n < 256; omega)
  simp only [Lead.ofOctet, same, small, if_true]

/-- The first octet of a character of two announces one more. -/
theorem ofOctet_two {n : Nat} (least : 128 ≤ n) (greatest : n < 2048)
    : Lead.ofOctet (UInt8.ofNat (n / 64 + 0xc0)) = .start ⟨n / 64, 1, 0x80, 0xbf⟩ := by
  have same : (UInt8.ofNat (n / 64 + 0xc0)).toNat = n / 64 + 0xc0 :=
    UInt8.toNat_ofNat_of_lt' (by change _ < 256; omega)
  have whole : ¬ n / 64 + 0xc0 < 0x80 := by omega
  have formed : ¬ n / 64 + 0xc0 < 0xc2 := by omega
  have two : n / 64 + 0xc0 < 0xe0 := by omega
  simp only [Lead.ofOctet, same, whole, formed, two, if_true, if_false, Nat.add_sub_cancel]

/-- The first octet of a character of three announces two more, the first of which is kept from
overlong forms and from surrogates; by cases on whether either could begin so.
-/
theorem ofOctet_three {n : Nat} (least : 2048 ≤ n) (greatest : n < 65536)
    (valid : n.isValidChar)
    : ∃ low high,
        Lead.ofOctet (UInt8.ofNat (n / 4096 + 0xe0)) = .start ⟨n / 4096, 2, low, high⟩
          ∧ Unfinished.Takes ⟨n / 4096, 2, low, high⟩ (n / 64) := by
  have same : (UInt8.ofNat (n / 4096 + 0xe0)).toNat = n / 4096 + 0xe0 :=
    UInt8.toNat_ofNat_of_lt' (by change _ < 256; omega)
  have whole : ¬ n / 4096 + 0xe0 < 0x80 := by omega
  have formed : ¬ n / 4096 + 0xe0 < 0xc2 := by omega
  have two : ¬ n / 4096 + 0xe0 < 0xe0 := by omega
  have three : n / 4096 + 0xe0 < 0xf0 := by omega
  simp only [Lead.ofOctet, same, whole, formed, two, three, if_true, if_false]
  -- Behind 0xe0 low octets would be overlong, behind 0xed high ones would be surrogates.
  by_cases overlong : n / 4096 = 0
  · refine ⟨0xa0, 0xbf, by simp only [overlong, if_true], ?_, ?_⟩
    · change 160 ≤ n / 64 % 64 + 128
      omega
    · change n / 64 % 64 + 128 ≤ 191
      omega
  · have above : ¬ n / 4096 + 0xe0 = 0xe0 := by omega
    by_cases surrogate : n / 4096 = 0xd
    · refine ⟨0x80, 0x9f, ?_, ?_, ?_⟩
      · simp only [surrogate, Nat.reduceAdd, Nat.reduceEqDiff, if_true, if_false]
      · change 128 ≤ n / 64 % 64 + 128
        omega
      · change n / 64 % 64 + 128 ≤ 159
        unfold Nat.isValidChar at valid
        omega
    · have beside : ¬ n / 4096 + 0xe0 = 0xed := by omega
      refine ⟨0x80, 0xbf, ?_, Unfinished.takes_any ..⟩
      simp only [above, beside, if_false, Nat.add_sub_cancel]

/-- The first octet of a character of four announces three more, the first of which is kept from
overlong forms and from what is past the last code point; by cases on whether either could begin so.
-/
theorem ofOctet_four {n : Nat} (least : 65536 ≤ n) (valid : n.isValidChar)
    : ∃ low high,
        Lead.ofOctet (UInt8.ofNat (n / 262144 + 0xf0)) = .start ⟨n / 262144, 3, low, high⟩
          ∧ Unfinished.Takes ⟨n / 262144, 3, low, high⟩ (n / 4096) := by
  unfold Nat.isValidChar at valid
  have same : (UInt8.ofNat (n / 262144 + 0xf0)).toNat = n / 262144 + 0xf0 :=
    UInt8.toNat_ofNat_of_lt' (by change _ < 256; omega)
  have whole : ¬ n / 262144 + 0xf0 < 0x80 := by omega
  have formed : ¬ n / 262144 + 0xf0 < 0xc2 := by omega
  have two : ¬ n / 262144 + 0xf0 < 0xe0 := by omega
  have above : ¬ n / 262144 + 0xf0 = 0xe0 := by omega
  have beside : ¬ n / 262144 + 0xf0 = 0xed := by omega
  have three : ¬ n / 262144 + 0xf0 < 0xf0 := by omega
  simp only [Lead.ofOctet, same, whole, formed, two, above, beside, three, if_false]
  by_cases overlong : n / 262144 = 0
  · refine ⟨0x90, 0xbf, by simp only [overlong, if_true], ?_, ?_⟩
    · change 144 ≤ n / 4096 % 64 + 128
      omega
    · change n / 4096 % 64 + 128 ≤ 191
      omega
  · have past : ¬ n / 262144 + 0xf0 = 0xf0 := by omega
    by_cases greatest : n / 262144 = 4
    · refine ⟨0x80, 0x8f, ?_, ?_, ?_⟩
      · simp only [greatest, Nat.reduceAdd, Nat.reduceLT, Nat.reduceEqDiff, if_true, if_false]
      · change 128 ≤ n / 4096 % 64 + 128
        omega
      · change n / 4096 % 64 + 128 ≤ 143
        omega
    · have within : n / 262144 + 0xf0 < 0xf4 := by omega
      refine ⟨0x80, 0xbf, ?_, Unfinished.takes_any ..⟩
      simp only [past, within, if_true, if_false, Nat.add_sub_cancel]

-----------------------------------------------------------------------------------------
-- Whole characters and texts
-----------------------------------------------------------------------------------------

/-- The first octet of a longer character leads into it. -/
theorem decodeFrom_start {b : UInt8} {part : Unfinished} (lead : Lead.ofOctet b = .start part)
    (rest : Octets)
    : decodeFrom none (b :: rest) = decodeFrom (some part) rest := by
  simp only [decodeFrom, advance, begin, lead, List.nil_append]

/-- Reading the form of a character gives the character and goes on behind it; by cases on how many
octets it has.
-/
theorem decodeFrom_encodeChar (c : Char) (rest : Octets)
    : decodeFrom none (String.utf8EncodeChar c ++ rest) = c :: decodeFrom none rest := by
  have valid : c.toNat.isValidChar := c.valid
  have same : Char.ofNat c.toNat = c := Char.ofNat_toNat c
  rw [encodeChar_eq]
  generalize c.toNat = n at valid same ⊢
  split
  · next one =>
      simp only [List.singleton_append, decodeFrom, advance, begin,
        ofOctet_whole (Nat.lt_succ_of_le one), same]
  · next one =>
      split
      · next two =>
          have bits : n / 64 % 32 = n / 64 := by omega
          rw [bits, List.cons_append, List.singleton_append,
            decodeFrom_start (ofOctet_two (by omega) (by omega)),
            decodeFrom_last (Unfinished.takes_any ..), same]
      · next two =>
          split
          · next three =>
              have bits : n / 4096 % 16 = n / 4096 := by omega
              have value : n / 4096 = n / 64 / 64 := by omega
              obtain ⟨low, high, lead, takes⟩ := ofOctet_three (by omega) (by omega) valid
              rw [bits, List.cons_append, decodeFrom_start lead]
              rw [value] at takes ⊢
              rw [List.cons_append, List.singleton_append, decodeFrom_more takes,
                decodeFrom_last (Unfinished.takes_any ..), same]
          · next three =>
              have bits : n / 262144 % 8 = n / 262144 := by omega
              have value : n / 262144 = n / 4096 / 64 := by omega
              have next : n / 4096 = n / 64 / 64 := by omega
              obtain ⟨low, high, lead, takes⟩ := ofOctet_four (by omega) valid
              rw [bits, List.cons_append, decodeFrom_start lead]
              rw [value] at takes ⊢
              rw [List.cons_append, decodeFrom_more takes, next, List.cons_append,
                List.singleton_append, decodeFrom_more (Unfinished.takes_any ..),
                decodeFrom_last (Unfinished.takes_any ..), same]

/-- The lossy reading of written text is the text, whatever octets come behind it; by induction on
the text.
-/
theorem decodeLossy_encode_append (text : List Char) (rest : Octets)
    : decodeLossy (encode text ++ rest) = text ++ decodeLossy rest := by
  induction text with
  | nil => rfl
  | cons c text ih =>
      rw [encode_cons, List.append_assoc, decodeLossy, decodeFrom_encodeChar]
      exact congrArg (c :: ·) ih

/-- Text that is written can be read again. -/
@[simp]
theorem decodeLossy_encode (text : List Char)
    : decodeLossy (encode text) = text := by
  have whole := decodeLossy_encode_append text []
  have nothing : decodeLossy [] = [] := rfl
  rwa [List.append_nil, nothing, List.append_nil] at whole

/-- Octets are read without loss exactly if they are the written form of what is read. -/
theorem decode?_eq_some_iff {octets : Octets} {text : List Char}
    : decode? octets = some text ↔ octets = encode text := by
  dsimp only [decode?]
  constructor
  · intro read
    split at read
    · next whole =>
        cases read
        exact whole.symm
    · cases read
  · rintro rfl
    simp

/-- What is shown for the octets of a text is the text. -/
@[simp]
theorem shown_octets (text : String)
    : shown (octets text) = text := by
  rw [shown, octets, decodeLossy_encode, String.ofList_toList]

end Dialogue.Text
