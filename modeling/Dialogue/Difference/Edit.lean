/-!
Edits: how one sequence becomes another. An edit names ranges of the old and the new sequence by
their first index and length; a list of edits runs through both sequences from front to back.
-/

namespace Dialogue.Difference

/-- One edit. -/
inductive Edit
  /-- The next elements are the same on both sides. -/
  | equal (old new length : Nat)
  /-- Old elements go, at this place of the new sequence. -/
  | delete (old length new : Nat)
  /-- New elements come, at this place of the old sequence. -/
  | insert (old new length : Nat)
  /-- Old elements go and new ones come in their place. -/
  | replace (old oldLength new newLength : Nat)
deriving Repr, DecidableEq

namespace Edit

/-- The old range: its first index and its length. -/
def oldRange : Edit → Nat × Nat
  | .equal old _ length => (old, length)
  | .delete old length _ => (old, length)
  | .insert old _ _ => (old, 0)
  | .replace old length _ _ => (old, length)

/-- The new range: its first index and its length. -/
def newRange : Edit → Nat × Nat
  | .equal _ new length => (new, length)
  | .delete _ _ new => (new, 0)
  | .insert _ new length => (new, length)
  | .replace _ _ new length => (new, length)

/-- The index after the old range. -/
def oldEnd (e : Edit) : Nat := e.oldRange.1 + e.oldRange.2

/-- The index after the new range. -/
def newEnd (e : Edit) : Nat := e.newRange.1 + e.newRange.2

/-- Whether an edit keeps elements. -/
def isEqual : Edit → Bool
  | .equal .. => true
  | _ => false

/-- Whether an edit only removes elements. -/
def isDelete : Edit → Bool
  | .delete .. => true
  | _ => false

/-- Whether an edit only adds elements. -/
def isInsert : Edit → Bool
  | .insert .. => true
  | _ => false

/-- How many elements an edit is about. -/
def size (e : Edit) : Nat := e.oldRange.2 + e.newRange.2

end Edit

variable {α : Type} [DecidableEq α]

/-- How many elements, at most `count`, are the same from `i` on in the old and from `j` on in the
new sequence. -/
def commonPrefix (old new : Array α) (i j : Nat) : Nat → Nat
  | 0 => 0
  | count + 1 =>
    if old[i]? = new[j]? then commonPrefix old new (i + 1) (j + 1) count + 1 else 0

/-- How many elements, at most `count`, are the same before `i` in the old and before `j` in the
new sequence, counted backwards. -/
def commonSuffix (old new : Array α) (i j : Nat) : Nat → Nat
  | 0 => 0
  | count + 1 =>
    if old[i - 1]? = new[j - 1]? then commonSuffix old new (i - 1) (j - 1) count + 1 else 0

end Dialogue.Difference
