import Dialogue.Difference.Edit

/-!
Compaction of edits: neighbouring removals and additions are brought together where they can be.
An edit is shifted up over what stands before it and then down over what stands after it, first
every removal and then every addition.
-/

namespace Dialogue.Difference

/-- An edit in its place: the edits before it, the nearest first, and the edits after it. -/
structure Place where
  before : List Edit
  edit : Edit
  after : List Edit
deriving Repr

/-- The edits of a place, in order. -/
def Place.toList (p : Place) : List Edit :=
  p.before.reverse ++ p.edit :: p.after

/-- A measure of edits that falls when one of them shrinks or goes. -/
def weight : List Edit → Nat
  | [] => 0
  | e :: rest => e.size + 1 + weight rest

/-- The weight of edits adds up. -/
@[simp]
theorem weight_cons (e : Edit) (edits : List Edit)
    : weight (e :: edits) = e.size + 1 + weight edits :=
  rfl

namespace Edit

/-- An edit moved towards the front on both sides. -/
def shiftLeft (count : Nat) : Edit → Edit
  | .equal old new length => .equal (old - count) (new - count) length
  | .delete old length new => .delete (old - count) length (new - count)
  | .insert old new length => .insert (old - count) (new - count) length
  | .replace old oldLength new newLength =>
    .replace (old - count) oldLength (new - count) newLength

/-- An edit moved towards the back on both sides. -/
def shiftRight (count : Nat) : Edit → Edit
  | .equal old new length => .equal (old + count) (new + count) length
  | .delete old length new => .delete (old + count) length (new + count)
  | .insert old new length => .insert (old + count) (new + count) length
  | .replace old oldLength new newLength =>
    .replace (old + count) oldLength (new + count) newLength

end Edit

variable {α : Type} [DecidableEq α]

/-- How many elements at the end of a kept range are also at the end of an edit's new range. -/
def sharedEnd (old new : Array α) (keptOld length : Nat) (e : Edit) : Nat :=
  commonSuffix old new (keptOld + length) e.newEnd (min length e.newRange.2)

/-- How many elements at the start of a kept range are also at the start of an edit's new range. -/
def sharedStart (old new : Array α) (keptOld length : Nat) (e : Edit) : Nat :=
  commonPrefix old new keptOld e.newRange.1 (min length e.newRange.2)

/-- Puts a kept range of `count` elements before edits, as part of a kept range that is there. -/
def keepBefore (count keptOld keptNew : Nat) : List Edit → List Edit
  | .equal old new length :: rest => .equal (old - count) (new - count) (length + count) :: rest
  | edits => .equal keptOld keptNew count :: edits

/-- Puts a kept range of `count` elements after the edits that stand before a place, the nearest
first, as part of a kept range that is there. -/
def keepAfter (count keptOld keptNew : Nat) : List Edit → List Edit
  | .equal old new length :: rest => .equal old new (length + count) :: rest
  | edits => .equal keptOld keptNew count :: edits

/-- Shifts an edit up as far as it goes. It passes over kept elements that it also ends in, changes
places with an edit of the other kind, and joins one of its own kind. -/
def shiftUp (old new : Array α) (p : Place) : Place :=
  match _h : p.before with
  | [] => p
  | .equal keptOld keptNew length :: rest =>
    let shared := sharedEnd old new keptOld length p.edit
    -- What is passed over is kept after the edit instead of before it.
    if _hs : 0 < shared then
      let after :=
        keepBefore shared (keptOld + length - shared) (p.edit.newEnd - shared) p.after
      let edit := p.edit.shiftLeft shared
      if length ≤ shared then shiftUp old new ⟨rest, edit, after⟩
      else shiftUp old new ⟨.equal keptOld keptNew (length - shared) :: rest, edit, after⟩
    else if length = 0 then shiftUp old new { p with before := rest }
    else p
  | .delete first length at' :: rest =>
    match p.edit with
    | .delete _ more _ =>
      shiftUp old new { p with before := rest, edit := .delete first (length + more) at' }
    | _ => shiftUp old new { p with before := rest, after := .delete first length at' :: p.after }
  | .insert at' first length :: rest =>
    match p.edit with
    | .insert _ _ more =>
      shiftUp old new { p with before := rest, edit := .insert at' first (length + more) }
    | _ => shiftUp old new { p with before := rest, after := .insert at' first length :: p.after }
  | .replace .. :: _ => p
termination_by weight p.before
decreasing_by
  all_goals simp_all [Edit.size, Edit.oldRange, Edit.newRange] <;> omega

/-- Shifts an edit down as far as it goes, the same way. -/
def shiftDown (old new : Array α) (p : Place) : Place :=
  match _h : p.after with
  | [] => p
  | .equal keptOld keptNew length :: rest =>
    let shared := sharedStart old new keptOld length p.edit
    -- What is passed over is kept before the edit instead of after it.
    if _hs : 0 < shared then
      let before := keepAfter shared keptOld p.edit.newRange.1 p.before
      let edit := p.edit.shiftRight shared
      if length ≤ shared then shiftDown old new ⟨before, edit, rest⟩
      else
        shiftDown old new
          ⟨before, edit, .equal (keptOld + shared) (keptNew + shared) (length - shared) :: rest⟩
    else if length = 0 then shiftDown old new { p with after := rest }
    else p
  | .delete first more at' :: rest =>
    match p.edit with
    | .delete start length place =>
      shiftDown old new { p with edit := .delete start (length + more) place, after := rest }
    | _ =>
      shiftDown old new { p with before := .delete first more at' :: p.before, after := rest }
  | .insert at' first more :: rest =>
    match p.edit with
    | .insert place start length =>
      shiftDown old new { p with edit := .insert place start (length + more), after := rest }
    | _ =>
      shiftDown old new { p with before := .insert at' first more :: p.before, after := rest }
  | .replace .. :: _ => p
termination_by weight p.after
decreasing_by
  all_goals simp_all [Edit.size, Edit.oldRange, Edit.newRange] <;> omega

/-- Shifts every chosen edit, from front to back. Each turn leaves one more edit behind, so there
are no more turns than edits and elements. -/
def shiftAll (old new : Array α) (chosen : Edit → Bool) :
    Nat → List Edit → List Edit → List Edit
  | 0, before, after => before.reverse ++ after
  | _ + 1, before, [] => before.reverse
  | turns + 1, before, edit :: after =>
    if chosen edit then
      let place := shiftDown old new (shiftUp old new ⟨before, edit, after⟩)
      shiftAll old new chosen turns (place.edit :: place.before) place.after
    else shiftAll old new chosen turns (edit :: before) after

/-- Compacts edits. -/
def compact (old new : Array α) (edits : List Edit) : List Edit :=
  let edits := shiftAll old new Edit.isDelete (weight edits) [] edits
  shiftAll old new Edit.isInsert (weight edits) [] edits

end Dialogue.Difference
