import Dialogue.Difference.Edit

/-!
The search for a short list of edits, by Myers' method in linear space. Paths grow from both ends
of a box until they meet; the meeting point cuts the box in two, and each part is searched in the
same way. The furthest points reached are kept on numbered diagonals. They are not forgotten
between one search and the next, and the edits found depend on that.
-/

namespace Dialogue.Difference

/-- A box: the part of both sequences that is still to be matched. -/
structure Box where
  oldStart : Nat
  oldEnd : Nat
  newStart : Nat
  newEnd : Nat
deriving Repr, DecidableEq

namespace Box

/-- How many old elements a box has. -/
def width (b : Box) : Nat := b.oldEnd - b.oldStart

/-- How many new elements a box has. -/
def height (b : Box) : Nat := b.newEnd - b.newStart

/-- How many elements a box has on both sides. -/
def size (b : Box) : Nat := b.width + b.height

end Box

/-- The furthest points reached from the front and from the back, diagonal by diagonal. Diagonal
`k` is kept at the index `k + offset`. -/
structure Frontier where
  offset : Nat
  forward : Array Nat
  backward : Array Nat
deriving Repr

namespace Frontier

/-- A frontier at which nothing has been reached, wide enough for two lengths. -/
def ofLengths (oldLength newLength : Nat) : Frontier :=
  let offset := (oldLength + newLength + 1) / 2 + 1
  ⟨offset, Array.replicate (2 * offset) 0, Array.replicate (2 * offset) 0⟩

/-- The index of a diagonal. -/
def index (f : Frontier) (k : Int) : Nat := (k + f.offset).toNat

/-- The point reached from the front on a diagonal. -/
def front (f : Frontier) (k : Int) : Nat := f.forward.getD (f.index k) 0

/-- The point reached from the back on a diagonal. -/
def back (f : Frontier) (k : Int) : Nat := f.backward.getD (f.index k) 0

/-- Sets the point reached from the front on a diagonal. -/
def setFront (f : Frontier) (k : Int) (x : Nat) : Frontier :=
  { f with forward := f.forward.setIfInBounds (f.index k) x }

/-- Sets the point reached from the back on a diagonal. -/
def setBack (f : Frontier) (k : Int) (x : Nat) : Frontier :=
  { f with backward := f.backward.setIfInBounds (f.index k) x }

end Frontier

/-- The start of a path on diagonal `k` after `d` edits: one step down from the diagonal above, or
one step right from the diagonal below, whichever has come further. -/
def pathStart (reached : Int → Nat) (d k : Int) : Nat :=
  if k = -d ∨ (k ≠ d ∧ reached (k - 1) < reached (k + 1)) then reached (k + 1)
  else reached (k - 1) + 1

variable {α : Type} [DecidableEq α]

/-- One round from the front: diagonals `k`, `k - 2`, …, as many as `count`. A path that reaches a
path from the back ends the search at its start. -/
def forwardRound (old new : Array α) (box : Box) (d : Nat) :
    Nat → Int → Frontier → Option (Nat × Nat) × Frontier
  | 0, _, frontier => (none, frontier)
  | count + 1, k, frontier =>
    -- Two paths can meet here only if the box's ends lie an odd number of diagonals apart.
    let delta : Int := (box.width : Int) - box.height
    let x0 := pathStart frontier.front d k
    let y0 : Int := (x0 : Int) - k
    let run :=
      if x0 < box.width ∧ 0 ≤ y0 ∧ y0 < box.height then
        commonPrefix old new (box.oldStart + x0) (box.newStart + y0.toNat)
          (min (box.width - x0) (box.height - y0.toNat))
      else 0
    let frontier := frontier.setFront k (x0 + run)
    if delta % 2 ≠ 0 ∧ (k - delta).natAbs + 1 ≤ d
        ∧ box.width ≤ frontier.front k + frontier.back (-(k - delta)) then
      (some (x0, y0.toNat), frontier)
    else forwardRound old new box d count (k - 2) frontier

/-- One round from the back, the same way; the search ends where the path has come to. -/
def backwardRound (old new : Array α) (box : Box) (d : Nat) :
    Nat → Int → Frontier → Option (Nat × Nat) × Frontier
  | 0, _, frontier => (none, frontier)
  | count + 1, k, frontier =>
    let delta : Int := (box.width : Int) - box.height
    let x0 := pathStart frontier.back d k
    let y0 : Int := (x0 : Int) - k
    let run :=
      if x0 < box.width ∧ 0 ≤ y0 ∧ y0 < box.height then
        commonSuffix old new (box.oldEnd - x0) (box.newEnd - y0.toNat)
          (min (box.width - x0) (box.height - y0.toNat))
      else 0
    let frontier := frontier.setBack k (x0 + run)
    if delta % 2 = 0 ∧ (k - delta).natAbs ≤ d
        ∧ box.width ≤ frontier.back k + frontier.front (-(k - delta)) then
      (some (box.width - (x0 + run), box.height - (y0.toNat + run)), frontier)
    else backwardRound old new box d count (k - 2) frontier

/-- Rounds with `d`, `d + 1`, … edits, as many as `rounds`, until two paths meet. -/
def searchRounds (old new : Array α) (box : Box) :
    Nat → Nat → Frontier → Option (Nat × Nat) × Frontier
  | 0, _, frontier => (none, frontier)
  | rounds + 1, d, frontier =>
    match forwardRound old new box d (d + 1) d frontier with
    | (some point, frontier) => (some point, frontier)
    | (none, frontier) =>
      match backwardRound old new box d (d + 1) d frontier with
      | (some point, frontier) => (some point, frontier)
      | (none, frontier) => searchRounds old new box rounds (d + 1) frontier

/-- The point of a box at which paths from its two ends meet. -/
def meetingPoint (old new : Array α) (box : Box) (frontier : Frontier) :
    Option (Nat × Nat) × Frontier :=
  searchRounds old new box ((box.size + 1) / 2 + 1) 0 ((frontier.setFront 1 0).setBack 1 0)

/-- How many elements at the start of a box are the same on both sides. -/
def Box.shared (old new : Array α) (box : Box) : Nat :=
  commonPrefix old new box.oldStart box.newStart (min box.width box.height)

/-- How many elements at the end of a box are the same on both sides. -/
def Box.sharedBack (old new : Array α) (box : Box) : Nat :=
  commonSuffix old new box.oldEnd box.newEnd (min box.width box.height)

/-- A box without elements at its start. -/
def Box.dropFront (count : Nat) (box : Box) : Box :=
  { box with oldStart := box.oldStart + count, newStart := box.newStart + count }

/-- A box without elements at its end. -/
def Box.dropBack (count : Nat) (box : Box) : Box :=
  { box with oldEnd := box.oldEnd - count, newEnd := box.newEnd - count }

/-- The two parts of a box before and after a point. A point outside the box or at one of its two
ends cuts nothing off, so that both parts are smaller than the box. -/
def Box.cut? (box : Box) (x y : Nat) : Option (Box × Box) :=
  if x ≤ box.width ∧ y ≤ box.height ∧ 0 < x + y ∧ x + y < box.size then
    some
      ({ box with oldEnd := box.oldStart + x, newEnd := box.newStart + y },
        { box with oldStart := box.oldStart + x, newStart := box.newStart + y })
  else none

/-- A box without elements at its start is not larger. -/
theorem Box.size_dropFront_le (count : Nat) (box : Box)
    : (box.dropFront count).size ≤ box.size := by
  simp only [dropFront, size, width, height]
  omega

/-- A box without elements at its end is not larger. -/
theorem Box.size_dropBack_le (count : Nat) (box : Box)
    : (box.dropBack count).size ≤ box.size := by
  simp only [dropBack, size, width, height]
  omega

/-- Both parts of a box that is cut are smaller than it. -/
theorem Box.size_cut_lt {box left right : Box} {x y : Nat} (h : box.cut? x y = some (left, right))
    : left.size < box.size ∧ right.size < box.size := by
  unfold cut? at h
  split at h
  · next bounds =>
      obtain ⟨rfl, rfl⟩ := Prod.mk.inj (Option.some.inj h)
      simp only [size, width, height] at *
      omega
  · exact absurd h (by simp)

/-- The edits of a box. Common elements at its ends are kept; what is left between them is cut at
the meeting point, and if there is none, all of it goes and comes anew. -/
def editsOf (old new : Array α) (box : Box) (frontier : Frontier) : List Edit × Frontier :=
  -- Only what differs at both ends is searched.
  let before := box.shared old new
  let after := (box.dropFront before).sharedBack old new
  let inner := (box.dropFront before).dropBack after
  let kept := if before = 0 then [] else [Edit.equal box.oldStart box.newStart before]
  let trailing := if after = 0 then [] else [Edit.equal inner.oldEnd inner.newEnd after]
  let goes := Edit.delete inner.oldStart inner.width inner.newStart
  let comes := Edit.insert inner.oldStart inner.newStart inner.height
  if inner.width = 0 ∧ inner.height = 0 then (kept ++ trailing, frontier)
  else if inner.height = 0 then (kept ++ goes :: trailing, frontier)
  else if inner.width = 0 then (kept ++ comes :: trailing, frontier)
  else
    match meetingPoint old new inner frontier with
    | (none, frontier) => (kept ++ goes :: comes :: trailing, frontier)
    | (some (x, y), frontier) =>
      match h : inner.cut? x y with
      | none => (kept ++ goes :: comes :: trailing, frontier)
      | some (left, right) =>
        have _left : left.size < box.size :=
          Nat.lt_of_lt_of_le (Box.size_cut_lt h).1
            (Nat.le_trans (Box.size_dropBack_le _ _) (Box.size_dropFront_le _ _))
        have _right : right.size < box.size :=
          Nat.lt_of_lt_of_le (Box.size_cut_lt h).2
            (Nat.le_trans (Box.size_dropBack_le _ _) (Box.size_dropFront_le _ _))
        let (first, frontier) := editsOf old new left frontier
        let (second, frontier) := editsOf old new right frontier
        (kept ++ first ++ second ++ trailing, frontier)
termination_by box.size

/-- The edits from one sequence to another. -/
def search (old new : Array α) : List Edit :=
  (editsOf old new ⟨0, old.size, 0, new.size⟩ (.ofLengths old.size new.size)).1

end Dialogue.Difference
