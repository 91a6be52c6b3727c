import Dialogue.Text.Latin

/-!
Patterns for names and texts. A star stands for any text, a question mark for any character, and
brackets for one of several; a backslash takes the meaning away from the character after it.
-/

namespace Dialogue.Shell

/-- A pattern. -/
abbrev Pattern := Chars

namespace Pattern

/-- The classes of characters. -/
def classes : List (String × (Char → Bool)) :=
  let isPrinted (c : Char) : Bool := 0x20 < c.toNat && c.toNat < 0x7f
  [("alnum", Char.isAlphanum), ("alpha", Char.isAlpha),
    ("cntrl", fun c => c.toNat < 0x20 || c.toNat == 0x7f), ("digit", Char.isDigit),
    ("graph", isPrinted), ("lower", fun c => c.isLower),
    ("print", fun c => isPrinted c || c == ' '), ("space", fun c => " \t\n\r\x0b\x0c".contains c),
    ("upper", fun c => c.isUpper), ("xdigit", fun c => "0123456789abcdefABCDEF".contains c),
    ("blank", fun c => c == ' ' || c == '\t'),
    ("punct", fun c => isPrinted c && !c.isAlphanum)]

/-- The class that is named at the start of a text, after its opening bracket, and the rest. -/
def class? (text : Chars) : Option ((Char → Bool) × Chars) :=
  classes.findSome? fun (name, member) =>
    let written := s!":{name}:]".toList
    if written.isPrefixOf text then some (member, text.drop written.length) else none

/-- The place of an octet in the order by which ranges go: those from 128 on come first. -/
def rank (c : Char) : Int := if c.toNat < 0x80 then c.toNat else (c.toNat : Int) - 0x100

/-- The members of brackets, of which the first has been taken off: whether a character is one of
them, and what follows the closing bracket. There is none if the brackets do not close. The first
argument bounds the members. -/
def members? (chr : Char) : Nat → Bool → Char → Chars → Option (Bool × Chars)
  | 0, _, _, _ => none
  | bound + 1, found, c, rest =>
    -- Goes on with what follows a member.
    let onward (found : Bool) : Chars → Option (Bool × Chars)
      | [] => none
      | ']' :: rest => some (found, rest)
      | c :: rest => members? chr bound found c rest
    let range (c : Char) (rest : Chars) : Option (Bool × Chars) :=
      match rest with
      | '-' :: '\\' :: last :: rest =>
        onward (found || (rank c ≤ rank chr && rank chr ≤ rank last)) rest
      | '-' :: ']' :: _ => onward (found || chr == c) rest
      | '-' :: last :: rest =>
        onward (found || (rank c ≤ rank chr && rank chr ≤ rank last)) rest
      | rest => onward (found || chr == c) rest
    if c = '[' then
      match class? rest with
      | some (member, rest) => onward (found || member chr) rest
      | none => range c rest
    else if c = '\\' then
      match rest with
      | c :: rest => range c rest
      | [] => none
    else range c rest

/-- Whether a character is one of those in brackets, of which the opening one has been taken off,
and what follows them. There is none if they do not close. -/
def bracket? (chr : Char) (rest : Chars) : Option (Bool × Chars) :=
  let (inverted, inside) :=
    match rest with
    | '!' :: rest => (true, rest)
    | rest => (false, rest)
  match inside with
  | c :: inside =>
    (members? chr (rest.length + 1) false c inside).map fun (found, rest) =>
      (found != inverted, rest)
  | [] => none

/-- Whether a text matches a pattern. The first argument bounds the steps. -/
def matchesFrom : Nat → Pattern → Chars → Bool
  | 0, _, _ => false
  | _ + 1, [], text => text.isEmpty
  | bound + 1, '?' :: pattern, text =>
    match text with
    | _ :: text => matchesFrom bound pattern text
    | [] => false
  | bound + 1, '*' :: pattern, text =>
    matchesFrom bound pattern text ||
      match text with
      | _ :: text => matchesFrom bound ('*' :: pattern) text
      | [] => false
  | bound + 1, c :: pattern, text =>
    let literally (c : Char) (pattern : Pattern) : Bool :=
      match text with
      | first :: text => first == c && matchesFrom bound pattern text
      | [] => false
    if c = '\\' then
      match pattern with
      | c :: pattern => literally c pattern
      | [] => literally c []
    else if c = '[' then
      match text with
      | [] => false
      | first :: text =>
        match bracket? first pattern with
        | some (found, pattern) => found && matchesFrom bound pattern text
        | none => literally c pattern
    else literally c pattern

/-- Whether a text matches a pattern. -/
def «matches» (pattern : Pattern) (text : Chars) : Bool :=
  matchesFrom (pattern.length + text.length + 1) pattern text

end Pattern

end Dialogue.Shell
