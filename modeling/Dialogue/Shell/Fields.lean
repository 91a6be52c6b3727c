import Dialogue.Shell.Pattern

/-!
Fields. The text that a word comes to is split at separators, but only where it came from something
that was worked out. Such a stretch is a segment of its own; its bounds count, because a gap between
fields does not reach from one into the next.
-/

namespace Dialogue.Shell

/-- A character of a word that has been worked out, or quotes that began or ended there. -/
inductive Glyph
  | plain (c : Char)
  | escaped (c : Char)
  | mark
deriving Repr, DecidableEq

/-- How a stretch of a word is split. -/
inductive Splitting
  /-- It is not. -/
  | none
  /-- At the separators. -/
  | fields
  /-- Only between arguments. -/
  | arguments
deriving Repr, DecidableEq

/-- A stretch of a word that has been worked out. -/
structure Segment where
  glyphs : List Glyph
  splitting : Splitting := .none
deriving Repr, DecidableEq

namespace Glyph

/-- The character of a glyph. -/
def char? : Glyph → Option Char
  | .plain c => some c
  | .escaped c => some c
  | .mark => none

/-- The characters of glyphs. -/
def text (glyphs : List Glyph) : Chars := glyphs.filterMap char?

/-- The pattern that glyphs make. What is escaped has a backslash before it, unless one stands
there that is not escaped itself. -/
def pattern : Bool → List Glyph → Pattern
  | _, [] => []
  | _, .mark :: rest => pattern true rest
  | _, .plain '\\' :: rest => '\\' :: pattern false rest
  | needed, .escaped c :: rest => (if needed then ['\\', c] else [c]) ++ pattern true rest
  | _, .plain c :: rest => c :: pattern true rest

end Glyph

/-- The text of segments. -/
def Segment.text (segments : List Segment) : Chars :=
  segments.flatMap fun segment => Glyph.text segment.glyphs

/-- The pattern of segments. -/
def Segment.pattern (segments : List Segment) : Pattern :=
  Glyph.pattern true (segments.flatMap (·.glyphs))

/-- The sign that stands between arguments. -/
def argumentGap : Char := '\x00'

/-- Whether a character is a gap: several of them count as one, and none counts at an end. -/
def isGap (c : Char) : Bool := c == ' ' || c == '\t' || c == '\n' || c == argumentGap

/-- Fields as far as they have been split off. -/
structure Split where
  /-- The fields, the latest first. -/
  fields : List (List Glyph) := []
  /-- What belongs to the next field, the latest first. -/
  current : List Glyph := []
  /-- A field has just been ended by a gap. -/
  inGap : Bool := false
  /-- How the last segment that was split was split. -/
  last : Splitting := .none
  /-- How many more fields may be split off, if that is bounded. -/
  left : Option Nat := none
  /-- Of the current text, what was there when something came that may have to be cut off. -/
  cut : Option (List Glyph) := none

namespace Split

/-- Splits at one more glyph, once no more fields may be split off: gaps at the end are to be cut
off, with one other separator before or among them if that ends the only field. -/
def closing (s : Split) (glyph : Glyph) (isSeparator isGap : Bool) : Split :=
  let next := { s with current := glyph :: s.current }
  if isGap then { next with cut := some (s.cut.getD s.current) }
  else
    { next with
      cut := if isSeparator && s.inGap then s.cut else none
      inGap := false }

/-- Splits at one more glyph. The flag says that gaps do not count as such here. -/
def step (separators : Chars) (splitting : Splitting) (afterArguments : Bool) (s : Split)
    (glyph : Glyph) : Split :=
  let c := glyph.char?.getD argumentGap
  let isSeparator :=
    c == argumentGap || (splitting == .fields && separators.contains c)
  let isGap := isSeparator && Shell.isGap c
  if s.left = some 0 then s.closing glyph isSeparator isGap
  else if s.inGap && isSeparator then
    -- One separator that is no gap belongs to the gap.
    { s with current := [], inGap := isGap }
  else
    let s := if s.inGap then { s with current := [], inGap := false } else s
    if isSeparator then
      let inGap := !(afterArguments || splitting == .arguments) && isGap
      if s.current = [] && inGap then s
      else if s.left = some 1 then
        { s with left := some 0, inGap, cut := some s.current, current := glyph :: s.current }
      else
        { s with
          fields := s.current.reverse :: s.fields
          current := []
          inGap := inGap && isGap
          left := s.left.map (· - 1) }
    else { s with current := glyph :: s.current, inGap := false }

/-- Splits at a segment. -/
def segment (separators : Chars) (s : Split) (segment : Segment) : Split :=
  match segment.splitting with
  | .none => { s with current := segment.glyphs.reverse ++ s.current }
  | splitting =>
    let afterArguments := s.last == .arguments
    let start := { s with inGap := false, last := splitting }
    segment.glyphs.foldl (step separators splitting afterArguments) start

/-- All fields. -/
def finish (s : Split) : List (List Glyph) :=
  let current := s.cut.getD s.current
  if current.isEmpty && s.last != .arguments then s.fields.reverse
  else (current.reverse :: s.fields).reverse

end Split

/-- The fields of a word that has been worked out; at most so many if that is bounded. -/
def fieldsOf (separators : Chars) (most : Option Nat) (segments : List Segment) :
    List (List Glyph) :=
  (segments.foldl (Split.segment separators) { left := most }).finish

end Dialogue.Shell
