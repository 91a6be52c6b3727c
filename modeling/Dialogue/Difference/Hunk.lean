import Dialogue.Difference.Compaction
import Dialogue.Difference.Search
import Dialogue.Text.Line

/-!
The unified text of a difference between two texts: groups of changes with three unchanged lines
around them, each under a heading that says which lines it is about.
-/

namespace Dialogue.Difference

/-- Edits between two kept ranges: what is removed and what is added there. -/
structure Change where
  removed : Option Edit := none
  added : Option Edit := none

namespace Change

/-- Removes more. -/
def remove (change : Change) (old length new : Nat) : Change :=
  match change.removed with
  | some (.delete first before place) =>
    { change with removed := some (.delete first (before + length) place) }
  | _ => { change with removed := some (.delete old length new) }

/-- Adds more. -/
def add (change : Change) (old new length : Nat) : Change :=
  match change.added with
  | some (.insert place first before) =>
    { change with added := some (.insert place first (before + length)) }
  | _ => { change with added := some (.insert old new length) }

/-- A change as edits: a removal together with an addition is one replacement. -/
def edits : Change → List Edit
  | ⟨some (.delete old oldLength _), some (.insert _ new newLength)⟩ =>
    [.replace old oldLength new newLength]
  | ⟨removed, added⟩ => removed.toList ++ added.toList

end Change

/-- Joins edits: neighbouring kept ranges become one, and so does everything removed or added
between two of them. The first two arguments are what has been gathered so far. -/
def join : Option Edit → Change → List Edit → List Edit
  | kept, change, [] => kept.toList ++ change.edits
  | kept, change, .equal old new length :: rest =>
    match kept with
    | some (.equal first place before) =>
      join (some (.equal first place (before + length))) change rest
    | _ => change.edits ++ join (some (.equal old new length)) {} rest
  | kept, change, .delete old length new :: rest =>
    kept.toList ++ join none (change.remove old length new) rest
  | kept, change, .insert old new length :: rest =>
    kept.toList ++ join none (change.add old new length) rest
  | kept, change, e :: rest => kept.toList ++ change.edits ++ e :: join none {} rest

/-- How many unchanged lines stand around a change. -/
def context : Nat := 3

/-- The end of a kept range, at most `context` long. -/
def keptEnd : Edit → Edit
  | .equal old new length =>
    .equal (old + (length - context)) (new + (length - context)) (min length context)
  | e => e

/-- The start of a kept range, at most `context` long. -/
def keptStart : Edit → Edit
  | .equal old new length => .equal old new (min length context)
  | e => e

/-- Edits with the function applied to the first. -/
def onFirst (f : Edit → Edit) : List Edit → List Edit
  | [] => []
  | e :: rest => f e :: rest

/-- Edits with the function applied to the last. -/
def onLast (f : Edit → Edit) (edits : List Edit) : List Edit :=
  (onFirst f edits.reverse).reverse

/-- Cuts edits into groups wherever more than twice the context is kept. The first argument is the
group so far, the latest edit first. A group of nothing but a kept range is no group. -/
def cutGroups : List Edit → List Edit → List (List Edit)
  | group, [] => if group.all Edit.isEqual && group.length ≤ 1 then [] else [group.reverse]
  | group, .equal old new length :: rest =>
    -- The kept range is long enough to end one group and to begin the next.
    if 2 * context < length then
      (keptStart (.equal old new length) :: group).reverse
        :: cutGroups [keptEnd (.equal old new length)] rest
    else cutGroups (.equal old new length :: group) rest
  | group, e :: rest => cutGroups (e :: group) rest

/-- The groups of edits, with no more than the context before the first and after the last. -/
def groups (edits : List Edit) : List (List Edit) :=
  cutGroups [] (onLast keptStart (onFirst keptEnd edits))

/-- A range of lines in a heading: its first line, and its length unless that is one. An empty
range is named by the line before it. -/
def rangeText (start stop : Nat) : String :=
  let length := stop - start
  let first := if length = 0 then start else start + 1
  if length = 1 then toString first else s!"{first},{length}"

/-- A line in a hunk under its mark. A line without an ending gets one, and a remark. -/
def lineText (mark : Char) (line : List Char) : List Char :=
  let ended := line.getLast? = some '\n' ∨ line.getLast? = some '\r'
  mark :: line
    ++ if ended then [] else "\n\\ No newline at end of file\n".toList

/-- Lines of a text, from an index on, under a mark. -/
def linesText (mark : Char) (text : Array (List Char)) (start length : Nat) : List Char :=
  (text.extract start (start + length)).toList.flatMap (lineText mark)

/-- An edit in a hunk: what is kept under a blank, what goes under `-`, what comes under `+`. -/
def editText (old new : Array (List Char)) : Edit → List Char
  | .equal first _ length => linesText ' ' old first length
  | .delete first length _ => linesText '-' old first length
  | .insert _ first length => linesText '+' new first length
  | .replace first length place more =>
    linesText '-' old first length ++ linesText '+' new place more

/-- A group of edits under its heading. -/
def hunkText (old new : Array (List Char)) (group : List Edit) : List Char :=
  match group.head?, group.getLast? with
  | some first, some last =>
    let oldRange := rangeText first.oldRange.1 last.oldEnd
    let newRange := rangeText first.newRange.1 last.newEnd
    s!"@@ -{oldRange} +{newRange} @@\n".toList ++ group.flatMap (editText old new)
  | _, _ => []

/-- The edits between the lines of two texts. -/
def editsBetween (old new : Array (List Char)) : List Edit :=
  join none {} (compact old new (search old new))

/-- The unified difference between an expected and an actual text; empty if no line differs. -/
def unified (expected actual : List Char) : List Char :=
  let old := (Text.terminated expected).toArray
  let new := (Text.terminated actual).toArray
  let hunks := groups (editsBetween old new)
  if hunks = [] then []
  else "--- expected\n+++ actual\n".toList ++ hunks.flatMap (hunkText old new)

end Dialogue.Difference
