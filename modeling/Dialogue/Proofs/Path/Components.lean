import Dialogue.Path.Basic
import Dialogue.Proofs.Text.Decoding
import Dialogue.Proofs.Text.Splitting

/-!
The components of joined paths. A path to which an ordinary name is joined has the components that
it had and then the name, however the path is written: with slashes that repeat or stand at its
end, with dots, relative or not, or not at all.
-/

namespace Dialogue

-----------------------------------------------------------------------------------------
-- Octets of single characters
-----------------------------------------------------------------------------------------

namespace Text

/-- A character of more than one octet has none below 128, by cases on how many it has. -/
theorem le_toNat_of_mem_encodeChar {c : Char} (long : ¬ c.toNat ≤ 127)
    : ∀ b ∈ String.utf8EncodeChar c, 128 ≤ b.toNat := by
  have first {n : Nat} (least : 128 ≤ n) (greatest : n < 256) : 128 ≤ (UInt8.ofNat n).toNat := by
    rwa [UInt8.toNat_ofNat_of_lt' greatest]
  have further (n : Nat) : 128 ≤ (continuation n).toNat := by
    rw [toNat_continuation]
    omega
  rw [encodeChar_eq, if_neg long]
  split
  · exact List.forall_mem_cons.mpr
      ⟨first (by omega) (by omega), List.forall_mem_singleton.mpr (further _)⟩
  · split
    · exact List.forall_mem_cons.mpr ⟨first (by omega) (by omega),
        List.forall_mem_cons.mpr ⟨further _, List.forall_mem_singleton.mpr (further _)⟩⟩
    · exact List.forall_mem_cons.mpr ⟨first (by omega) (by omega),
        List.forall_mem_cons.mpr ⟨further _,
          List.forall_mem_cons.mpr ⟨further _, List.forall_mem_singleton.mpr (further _)⟩⟩⟩

/-- An octet below 128 stands in the form of its own character only. -/
theorem toNat_of_mem_encodeChar {c : Char} {b : UInt8} (member : b ∈ String.utf8EncodeChar c)
    (small : b.toNat < 128)
    : c.toNat = b.toNat := by
  by_cases ascii : c.toNat ≤ 127
  · have below : c.toNat < UInt8.size := Nat.lt_of_le_of_lt ascii (by decide)
    rw [encodeChar_eq, if_pos ascii, List.mem_singleton] at member
    rw [member, UInt8.toNat_ofNat_of_lt' below]
  · have large := le_toNat_of_mem_encodeChar ascii b member
    omega

/-- The octet of a single character stands in a text just where the character does. -/
theorem not_mem_octets {text : String} {c : Char} (ascii : c.toNat < 128)
    (absent : c ∉ text.toList)
    : UInt8.ofNat c.toNat ∉ octets text := by
  intro member
  obtain ⟨d, among, inside⟩ := List.mem_flatMap.mp member
  have same : (UInt8.ofNat c.toNat).toNat = c.toNat :=
    UInt8.toNat_ofNat_of_lt' (Nat.lt_trans ascii (by decide))
  have equal := toNat_of_mem_encodeChar inside (same.symm ▸ ascii)
  rw [same] at equal
  have eq : d = c := Char.ext (UInt32.toNat_inj.mp equal)
  exact absent (eq ▸ among)

end Text

namespace Path

-----------------------------------------------------------------------------------------
-- Pieces between slashes
-----------------------------------------------------------------------------------------

/-- Between its slashes a path has the pieces that the library's splitting gives. -/
theorem pieces_eq_splitOn (path : Path)
    : pieces path = path.splitOn slash := by
  refine eq_splitOn rfl (fun _ rest => ?_) path
  rw [pieces]
  cases pieces rest <;> rfl

/-- There is at least one piece, be it empty. -/
theorem pieces_ne_nil (path : Path)
    : pieces path ≠ [] := by
  rw [pieces_eq_splitOn]
  exact List.splitOn_ne_nil _ _

/-- A slash between two paths leaves the pieces of both. -/
theorem pieces_append (path more : Path)
    : pieces (path ++ slash :: more) = pieces path ++ pieces more := by
  simp only [pieces_eq_splitOn, List.splitOn_append_cons_self]

/-- The octets of a name that is a component of a path by itself. -/
structure Ordinary (name : Octets) : Prop where
  filled : name ≠ []
  notHere : name ≠ [dot]
  notUp : name ≠ [dot, dot]
  single : slash ∉ name

variable {name : Octets}

/-- An ordinary name stands for itself. -/
theorem Ordinary.componentOfPiece? (ordinary : Ordinary name)
    : Path.componentOfPiece? name = some (.name name) := by
  rw [Path.componentOfPiece?, if_neg (not_or.mpr ⟨ordinary.filled, ordinary.notHere⟩),
    if_neg ordinary.notUp]

/-- An ordinary name is one piece. -/
theorem Ordinary.pieces_eq (ordinary : Ordinary name)
    : pieces name = [name] := by
  rw [pieces_eq_splitOn, List.splitOn_eq_singleton ordinary.single]

/-- An ordinary name is not where a path starts. -/
theorem Ordinary.not_absolute (ordinary : Ordinary name)
    : isAbsolute name = false := by
  cases name with
  | nil => exact absurd rfl ordinary.filled
  | cons b rest =>
      have other : b ≠ slash := fun same => ordinary.single (same ▸ List.mem_cons_self)
      simpa [isAbsolute] using other

-----------------------------------------------------------------------------------------
-- Components of joined paths
-----------------------------------------------------------------------------------------

/-- A path that starts like another, and whose pieces stand for one more name, has the components of
the other and then the name.
-/
theorem components_eq_append {path longer : Path}
    (absolute : isAbsolute longer = isAbsolute path)
    (here : (pieces longer).head? = some [dot] ↔ (pieces path).head? = some [dot])
    (more
      : (pieces longer).filterMap Path.componentOfPiece?
        = (pieces path).filterMap Path.componentOfPiece? ++ [.name name])
    : components longer = components path ++ [.name name] := by
  simp only [components, absolute, here, more]
  split
  · rfl
  · split <;> rfl

/-- A path to which an ordinary name is joined has the components that it had, then the name; by
cases on how the path ends.
-/
theorem Ordinary.components_join (ordinary : Ordinary name) (base : Path)
    : components (join base name) = components base ++ [.name name] := by
  have one : [name].filterMap Path.componentOfPiece? = [.name name] := by
    rw [List.filterMap_cons_some ordinary.componentOfPiece?, List.filterMap_nil]
  rcases List.eq_nil_or_concat' base with rfl | ⟨front, last, rfl⟩
  · -- Nothing is put in front of the name, so it must not look like the start of another path.
    have joined : join [] name = name := by simp [join, ordinary.not_absolute]
    rw [joined]
    refine components_eq_append ordinary.not_absolute ?_ ?_
    · rw [ordinary.pieces_eq]
      simpa [pieces] using ordinary.notHere
    · rw [ordinary.pieces_eq, one]
      rfl
  · have head (more : Path)
        : isAbsolute (front ++ [last] ++ more) = isAbsolute (front ++ [last]) := by
      cases front <;> rfl
    by_cases slashed : last = slash
    · -- The empty piece behind the last slash gives way to the name, and stood for nothing.
      subst slashed
      have joined : join (front ++ [slash]) name = front ++ slash :: name := by
        simp [join, ordinary.not_absolute]
      have before : pieces (front ++ [slash]) = pieces front ++ [[]] := pieces_append front []
      have behind : pieces (front ++ slash :: name) = pieces front ++ [name] := by
        rw [pieces_append, ordinary.pieces_eq]
      rw [joined]
      refine components_eq_append ?_ ?_ ?_
      · simpa using head name
      · rw [before, behind, List.head?_append_of_ne_nil _ (pieces_ne_nil front),
          List.head?_append_of_ne_nil _ (pieces_ne_nil front)]
      · rw [before, behind, List.filterMap_append, List.filterMap_append, one]
        simp [Path.componentOfPiece?]
    · have joined : join (front ++ [last]) name = front ++ [last] ++ slash :: name := by
        simp [join, ordinary.not_absolute, slashed]
      have behind
          : pieces (front ++ [last] ++ slash :: name) = pieces (front ++ [last]) ++ [name] := by
        rw [pieces_append, ordinary.pieces_eq]
      rw [joined]
      refine components_eq_append (head _) ?_ ?_
      · rw [behind, List.head?_append_of_ne_nil _ (pieces_ne_nil _)]
      · rw [behind, List.filterMap_append, one]

/-- A path to which ordinary names are joined one after the other has the components that it had and
then the names, by induction on them.
-/
theorem components_foldl_join {names : List Octets} (ordinary : ∀ name ∈ names, Ordinary name)
    (base : Path)
    : components (names.foldl join base) = components base ++ names.map .name := by
  induction names generalizing base with
  | nil => rw [List.foldl_nil, List.map_nil, List.append_nil]
  | cons name names ih =>
      obtain ⟨first, others⟩ := List.forall_mem_cons.mp ordinary
      rw [List.foldl_cons, ih others, first.components_join, List.map_cons, List.append_assoc]
      rfl

end Path

end Dialogue
