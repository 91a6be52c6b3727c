import Dialogue.Text.Latin

/-!
Regular expressions. An expression says which texts it matches, and where: a spot asks for something
about the characters on both sides of it. A group notes what it matched, and may be asked for again.
-/

namespace Dialogue

/-- A set of characters: those in some ranges, or all others. -/
structure CharSet where
  ranges : List (Char × Char)
  negated : Bool := false
deriving Repr, DecidableEq

namespace CharSet

/-- Whether a character belongs to a set. -/
def contains (s : CharSet) (c : Char) : Bool :=
  s.ranges.any (fun range => decide (range.1 ≤ c) && decide (c ≤ range.2)) != s.negated

/-- The set of one character. -/
def single (c : Char) : CharSet := { ranges := [(c, c)] }

/-- All characters but those of a set, or again those. -/
def complement (s : CharSet) : CharSet := { s with negated := !s.negated }

end CharSet

/-- The classes of characters that have a name. -/
def characterClasses : List (String × List (Char × Char)) :=
  [("alpha", [('A', 'Z'), ('a', 'z')]),
    ("digit", [('0', '9')]),
    ("alnum", [('0', '9'), ('A', 'Z'), ('a', 'z')]),
    ("upper", [('A', 'Z')]),
    ("lower", [('a', 'z')]),
    ("space", [('\t', '\r'), (' ', ' ')]),
    ("blank", [('\t', '\t'), (' ', ' ')]),
    ("punct", [('!', '/'), (':', '@'), ('[', '\x60'), ('\x7b', '~')]),
    ("print", [(' ', '~')]),
    ("graph", [('!', '~')]),
    ("cntrl", [('\x00', '\x1f'), ('\x7f', '\x7f')]),
    ("xdigit", [('0', '9'), ('A', 'F'), ('a', 'f')])]

/-- The characters of words. -/
def wordSet : CharSet := { ranges := [('0', '9'), ('A', 'Z'), ('_', '_'), ('a', 'z')] }

/-- The characters that leave a gap. -/
def gapSet : CharSet := { ranges := [('\t', '\r'), (' ', ' ')] }

/-- Something that may be asked of a place between two characters. -/
inductive Spot
  | lineStart
  | lineEnd
  | textStart
  | textEnd
  | wordStart
  | wordEnd
  | insideWord
  | outsideWords
deriving Repr, DecidableEq

/-- A text that is searched. -/
structure Subject where
  text : Array Char
  /-- The character that ends a line inside it, if it is searched line by line. -/
  lineEnd : Option Char := none

namespace Subject

/-- Whether the character before a place satisfies a condition. -/
def before (s : Subject) (place : Nat) (condition : Char → Bool) : Bool :=
  match place with
  | 0 => false
  | place + 1 => s.text[place]?.any condition

/-- Whether the character after a place satisfies a condition. -/
def after (s : Subject) (place : Nat) (condition : Char → Bool) : Bool :=
  s.text[place]?.any condition

/-- Whether a place is such a spot. -/
def isSpot (s : Subject) (spot : Spot) (place : Nat) : Bool :=
  let wordBefore := s.before place wordSet.contains
  let wordAfter := s.after place wordSet.contains
  match spot with
  | .lineStart => place == 0 || s.before place (some · == s.lineEnd)
  | .lineEnd => place == s.text.size || s.after place (some · == s.lineEnd)
  | .textStart => place == 0
  | .textEnd => place == s.text.size
  | .wordStart => !wordBefore && wordAfter
  | .wordEnd => wordBefore && !wordAfter
  | .insideWord => wordBefore && wordAfter
  | .outsideWords => !wordBefore && !wordAfter

end Subject

/-- A regular expression. -/
inductive Expression
  /-- The empty text. -/
  | empty
  /-- A character of a set. -/
  | one (set : CharSet)
  /-- The empty text at a spot. -/
  | spot (spot : Spot)
  /-- What a group has matched. -/
  | again (group : Nat)
  | sequence (first second : Expression)
  /-- One of two; the first is tried first. -/
  | either (first second : Expression)
  /-- Any number of times, as often as possible. -/
  | many (inner : Expression)
  /-- A group that notes what it matches. The flag says that it need not be there, so that what it
  matched before counts if it then matches nothing. -/
  | group (number : Nat) (isOptional : Bool) (inner : Expression)
deriving Repr, DecidableEq

namespace Expression

/-- One expression after the other. -/
def followedBy (first second : Expression) : Expression :=
  match first, second with
  | .empty, second => second
  | first, .empty => first
  | first, second => .sequence first second

/-- One of two; nothing is tried last. -/
def or (first second : Expression) : Expression :=
  match first with
  | .empty => .either second .empty
  | first => .either first second

/-- The expression as a part that need not be there. -/
def optional : Expression → Expression
  | .group number _ inner => .group number true inner
  | e => e

/-- An expression so many times. -/
def times : Nat → Expression → Expression
  | 0, _ => .empty
  | 1, e => e
  | n + 2, e => .sequence (times (n + 1) e) e

/-- An expression at most so many times, and at least not at all. -/
def atMost : Nat → Expression → Expression
  | 0, _ => .empty
  | 1, e => .either e .empty
  | n + 2, e => .either (.sequence (atMost (n + 1) e) e) .empty

/-- An expression at least so many times, and at most so many if there is such a number. -/
def repeated (least : Nat) (most : Option Nat) (e : Expression) : Expression :=
  match e, most with
  | .empty, _ => .empty
  | e, none => (times least e).followedBy (.many e.optional)
  | e, some most => (times least e).followedBy (atMost (most - least) e.optional)

/-- Whether an expression asks again for what a group has matched. -/
def asksAgain : Expression → Bool
  | .again _ => true
  | .sequence first second => first.asksAgain || second.asksAgain
  | .either first second => first.asksAgain || second.asksAgain
  | .many inner => inner.asksAgain
  | .group _ _ inner => inner.asksAgain
  | _ => false

end Expression

end Dialogue
