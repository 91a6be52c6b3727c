import Dialogue.Expression.Basic
import Dialogue.Number.Whole

/-!
Regular expressions as they are written. In the basic notation a backslash gives a bracket or a bar
its special meaning, in the extended one it takes it away.
-/

namespace Dialogue

/-- How a regular expression is written and meant. -/
structure Dialect where
  /-- The extended notation. -/
  isExtended : Bool := false
  /-- Small and capital letters are the same. -/
  anyCase : Bool := false
  /-- It is matched line by line: a period or a set of other characters is no newline. -/
  perLine : Bool := false
  /-- It has nothing that not all have: no names of spots and sets, and in the basic notation no
  alternatives. -/
  isPlain : Bool := false
  /-- A closing bracket without an opening one stands for itself. -/
  allowsLoneClose : Bool := false
deriving Repr, DecidableEq

/-- Why a regular expression is refused. -/
inductive ExpressionFault
  | invalid
  | badCollation
  | badClass
  | trailingBackslash
  | badReference
  | openBracket
  | openGroup
  | openCount
  | badCount
  | badRange
  | badRepetition
  | tooBig
  | unopenedGroup
deriving Repr, DecidableEq

/-- What is said of a regular expression that is refused. -/
def ExpressionFault.text : ExpressionFault → String
  | .invalid => "Invalid regular expression"
  | .badCollation => "Invalid collation character"
  | .badClass => "Invalid character class name"
  | .trailingBackslash => "Trailing backslash"
  | .badReference => "Invalid back reference"
  | .openBracket => "Unmatched [, [^, [:, [., or [="
  | .openGroup => "Unmatched ( or \\("
  | .openCount => "Unmatched \\\x7b"
  | .badCount => "Invalid content of \\\x7b\\\x7d"
  | .badRange => "Invalid range end"
  | .badRepetition => "Invalid preceding regular expression"
  | .tooBig => "Regular expression too big"
  | .unopenedGroup => "Unmatched ) or \\)"

namespace Dialect

/-- A character as it counts. -/
def fold (d : Dialect) (c : Char) : Char := if d.anyCase then c.toUpper else c

/-- A piece of a regular expression. -/
inductive Piece
  | char (c : Char)
  | set (s : CharSet)
  | spot (s : Spot)
  /-- The start or the end of a word. -/
  | wordEdge
  /-- Neither of the two. -/
  | noWordEdge
  | again (group : Nat)
  | bar
  | opening
  | closing
  | star
  | plus
  | mark
  | openCount (c : Char)
  | closeCount
  | bracket
  | backslash
  | finish
deriving Repr, DecidableEq

/-- What a character names behind a backslash, if it names a spot or a set. -/
def namedPiece? (c : Char) : Option Piece :=
  match c with
  | '<' => some (.spot .wordStart)
  | '>' => some (.spot .wordEnd)
  | '\x60' => some (.spot .textStart)
  | '\'' => some (.spot .textEnd)
  | 'b' => some .wordEdge
  | 'B' => some .noWordEdge
  | 'w' => some (.set wordSet)
  | 'W' => some (.set wordSet.complement)
  | 's' => some (.set gapSet)
  | 'S' => some (.set gapSet.complement)
  | _ => none

/-- What a character stands for behind a backslash. -/
def escapedPiece (d : Dialect) (c : Char) : Piece :=
  if '1' ≤ c && c ≤ '9' then .again (c.toNat - '0'.toNat)
  else
    match if d.isPlain then none else namedPiece? c with
    | some piece => piece
    | none =>
      if d.isExtended || (d.isPlain && "|+?".toList.contains c) then .char c
      else
        match c with
        | '|' => .bar
        | '(' => .opening
        | ')' => .closing
        | '+' => .plus
        | '?' => .mark
        | '\x7b' => .openCount c
        | '\x7d' => .closeCount
        | c => .char c

/-- Whether a dollar sign before some text stands for the end of a line. -/
def endsLine (d : Dialect) (rest : Chars) : Bool :=
  d.isExtended
    || match rest with
      | [] => true
      | '\\' :: c :: _ => d.escapedPiece c == .bar || d.escapedPiece c == .closing
      | _ => false

/-- The set of a period. -/
def anyChar (d : Dialect) : CharSet :=
  { ranges := if d.perLine then [('\n', '\n')] else [], negated := true }

/-- The first piece of a text, and the rest. The flag says that a caret stands for the start of a
line here, which in the extended notation it does anywhere. -/
def nextPiece (d : Dialect) (caret : Bool) : Chars → Piece × Chars
  | [] => (.finish, [])
  | ['\\'] => (.backslash, [])
  | '\\' :: c :: rest => (d.escapedPiece c, rest)
  | c :: rest =>
    let piece : Piece :=
      match c with
      | '*' => .star
      | '[' => .bracket
      | '.' => .set d.anyChar
      | '^' => if caret || d.isExtended then .spot .lineStart else .char c
      | '$' => if d.endsLine rest then .spot .lineEnd else .char c
      | c =>
        if !d.isExtended then .char (d.fold c)
        else
          match c with
          | '|' => .bar
          | '(' => .opening
          | ')' => .closing
          | '+' => .plus
          | '?' => .mark
          | '\x7b' => .openCount c
          | '\x7d' => .closeCount
          | c => .char (d.fold c)
    (piece, rest)

/-- An element of a set in brackets. -/
inductive Element
  | char (c : Char)
  /-- A name between colons. -/
  | className (name : Chars)
  /-- A name between equals signs. -/
  | sameAs (name : Chars)
  /-- A name between periods. -/
  | named (name : Chars)
deriving Repr, DecidableEq

/-- The longest name between signs. -/
def longestSymbol : Nat := 32

/-- Reads a name up to a sign and a closing bracket. The first argument bounds it. -/
def symbolName (sign : Char) : Nat → Chars → Except ExpressionFault (Chars × Chars)
  | 0, _ => .error .openBracket
  | _, [] => .error .openBracket
  | _, [_] => .error .openBracket
  | bound + 1, c :: d :: rest =>
    if c = sign && d = ']' then .ok ([], rest)
    else (symbolName sign bound (d :: rest)).map fun (name, rest) => (c :: name, rest)

/-- Reads an element. Three hyphens are one. A hyphen that would begin a range is refused unless the
flag allows it. -/
def element (d : Dialect) (allowsHyphen : Bool) :
    Chars → Except ExpressionFault (Element × Chars)
  | '[' :: sign :: rest =>
    if sign = ':' then
      (symbolName sign longestSymbol rest).map fun (name, rest) => (.className name, rest)
    else if sign = '=' then
      (symbolName sign longestSymbol rest).map fun (name, rest) =>
        (.sameAs (name.map d.fold), rest)
    else if sign = '.' then
      (symbolName sign longestSymbol rest).map fun (name, rest) =>
        (.named (name.map d.fold), rest)
    else .ok (.char '[', sign :: rest)
  | '-' :: '-' :: '-' :: rest => .ok (.char '-', rest)
  | '-' :: rest =>
    if allowsHyphen || rest.head? = some ']' then .ok (.char '-', rest) else .error .badRange
  | c :: rest => .ok (.char (d.fold c), rest)
  | [] => .error .openBracket

/-- The character that begins or ends a range. -/
def rangeEnd : Element → Except ExpressionFault Char
  | .char c => .ok c
  | .named [c] => .ok c
  | .named _ => .error .badCollation
  | _ => .error .badRange

/-- The ranges that an element stands for. -/
def elementRanges (d : Dialect) : Element → Except ExpressionFault (List (Char × Char))
  | .char c => .ok [(c, c)]
  | .sameAs [c] => .ok [(c, c)]
  | .named [c] => .ok [(c, c)]
  | .sameAs _ => .error .badCollation
  | .named _ => .error .badCollation
  | .className name =>
    let isCase : Bool := name = "upper".toList ∨ name = "lower".toList
    let name := if d.anyCase && isCase then "alpha" else String.ofList name
    match characterClasses.lookup name with
    | some ranges => .ok ranges
    | none => .error .badClass

/-- Whether a hyphen at the start of some text makes a range with what follows. -/
def beginsRange : Chars → Bool
  | '-' :: '-' :: '-' :: _ => false
  | '-' :: ']' :: _ => false
  | '-' :: _ => true
  | _ => false

/-- Reads the elements of a set up to the closing bracket. The first argument bounds them; the flag
says that this is the first one. -/
def elements (d : Dialect) :
    Nat → Bool → Chars → Except ExpressionFault (List (Char × Char) × Chars)
  | 0, _, _ => .error .openBracket
  | bound + 1, isFirst, text => do
    let (start, rest) ← d.element isFirst text
    let isSymbol :=
      match start with
      | .className _ => true
      | .sameAs _ => true
      | _ => false
    let (ranges, rest) ←
      if !isSymbol && beginsRange rest then
        match rest.drop 1 with
        | [] => .error .openBracket
        | after => do
          let (stop, rest) ← d.element true after
          let first ← rangeEnd start
          match stop with
          | .className _ => .error .badRange
          | .sameAs _ => .error .badRange
          | stop => do
            let last ← rangeEnd stop
            if last < first then .error .badRange else pure ([(first, last)], rest)
      else if isSymbol then do pure (← d.elementRanges start, rest)
      else if rest.isEmpty then .error .openBracket
      else do pure (← d.elementRanges start, rest)
    match rest with
    | [] => .error .openBracket
    | ']' :: rest => return (ranges, rest)
    | rest => do
      let (others, rest) ← elements d bound false rest
      return (ranges ++ others, rest)

/-- A set in brackets, and whether it looks like a class of characters without its own brackets. -/
structure BracketSet where
  set : CharSet
  looksLikeClass : Bool

/-- Whether the text of a set that stands for so many elements looks like a class of characters. -/
def looksLikeClass (content : Chars) (elements : Nat) : Bool :=
  content.head? == some ':' && content.getLast? == some ':' && content.any (· != ':')
    && elements == content.length

/-- Reads a set after its opening bracket. -/
def bracketSet (d : Dialect) (text : Chars) : Except ExpressionFault (BracketSet × Chars) := do
  let (negated, text) :=
    match text with
    | '^' :: rest => (true, rest)
    | rest => (false, rest)
  let (ranges, rest) ←
    match text with
    | [] => .error .invalid
    -- A closing bracket at the start stands for itself.
    | text => d.elements (text.length + 1) true text
  let newline := if negated && d.perLine then [('\n', '\n')] else []
  let content := text.take (text.length - rest.length - 1)
  let found : BracketSet :=
    { set := { ranges := newline ++ ranges, negated }
      looksLikeClass := looksLikeClass content ranges.length }
  return (found, rest)

/-- How often something can be repeated at most. -/
def mostRepetitions : Nat := 32767

/-- A number in braces, and what stands after it. -/
inductive CountNumber
  | absent
  | some (n : Nat)
  | invalid
deriving Repr, DecidableEq

/-- Reads a number up to a comma or the closing brace; the answer says which of the two it was.
Nothing is answered if neither comes. -/
def countNumber (d : Dialect) : Nat → CountNumber → Chars → Option (CountNumber × Bool × Chars)
  | 0, _, _ => none
  | bound + 1, number, text =>
    match d.nextPiece false text with
    | (.finish, _) => none
    | (.closeCount, rest) => some (number, true, rest)
    | (.char ',', rest) => some (number, false, rest)
    | (.char c, rest) =>
      let number : CountNumber :=
        if !c.isDigit then .invalid
        else
          let digit := c.toNat - '0'.toNat
          match number with
          | .absent => .some digit
          | .some value => .some (min (mostRepetitions + 1) (value * 10 + digit))
          | .invalid => .invalid
      countNumber d bound number rest
    | (_, rest) => countNumber d bound .invalid rest

/-- Reads how often something is repeated, after the opening brace. -/
def count (d : Dialect) (text : Chars) :
    Except ExpressionFault (Nat × Option Nat × Chars) :=
  let checked (least : Nat) (most : Option Nat) (rest : Chars) :
      Except ExpressionFault (Nat × Option Nat × Chars) :=
    if most.any (· < least) then .error .badCount
    else if mostRepetitions < most.getD least then .error .tooBig
    else .ok (least, most, rest)
  match countNumber d (text.length + 1) .absent text with
  | none => .error .openCount
  | some (.absent, true, _) => .error .badCount
  | some (.invalid, _, _) => .error .badCount
  | some (.some least, true, rest) => checked least (some least) rest
  | some (first, false, rest) =>
    let least :=
      match first with
      | .some least => least
      | _ => 0
    match countNumber d (rest.length + 1) .absent rest with
    | none => .error .openCount
    | some (.invalid, _, _) => .error .badCount
    | some (_, false, _) => .error .badCount
    | some (.absent, true, rest) => checked least none rest
    | some (.some most, true, rest) => checked least (some most) rest

/-- A part of an expression that is being read: the whole, or a group. -/
structure Level where
  /-- The number of the group. -/
  number : Nat := 0
  /-- The alternatives before the last bar. -/
  choices : Option Expression := none
  /-- What stands before the last operand. -/
  before : Expression := .empty
  /-- What may be repeated. -/
  operand : Option Expression := none
  /-- The operand has been repeated already. -/
  isRepeated : Bool := false
  /-- The groups that were complete when it began. -/
  completeBefore : List Nat := []
  /-- Those that were complete at the end of some alternative. -/
  completeSince : List Nat := []

namespace Level

/-- What stands after the last bar. -/
def branch (l : Level) : Expression := l.before.followedBy (l.operand.getD .empty)

/-- All of a part. -/
def whole (l : Level) : Expression :=
  match l.choices with
  | none => l.branch
  | some choices => choices.or l.branch

/-- A part with another operand. -/
def add (l : Level) (e : Expression) : Level :=
  { l with before := l.branch, operand := some e, isRepeated := false }

/-- A part with something more that cannot be repeated. -/
def addFixed (l : Level) (e : Expression) : Level :=
  { l with before := l.branch.followedBy e, operand := none, isRepeated := false }

end Level

/-- An expression that is being read. -/
structure Draft where
  level : Level := {}
  outer : List Level := []
  groups : Nat := 0
  /-- The groups that are complete and can be asked for. -/
  complete : List Nat := []
  /-- Groups that are all there is of another group, with that group. -/
  sameAs : List (Nat × Nat) := []
  /-- Some set looks like a class of characters. -/
  looksLikeClass : Bool := false

namespace Draft

/-- A draft with another operand. -/
def add (draft : Draft) (e : Expression) : Draft := { draft with level := draft.level.add e }

/-- A draft with something more that cannot be repeated. -/
def addFixed (draft : Draft) (e : Expression) : Draft :=
  { draft with level := draft.level.addFixed e }

/-- A draft in which another alternative begins. Only groups that were complete before all of the
alternatives can be asked for in it. -/
def addBar (draft : Draft) : Draft :=
  { draft with
    level :=
      { draft.level with
        choices := some draft.level.whole
        before := .empty
        operand := none
        isRepeated := false
        completeSince := draft.level.completeSince ++ draft.complete }
    complete := draft.level.completeBefore }

/-- A draft in which a group begins. -/
def openGroup (draft : Draft) : Draft :=
  { draft with
    level := { number := draft.groups + 1, completeBefore := draft.complete }
    outer := draft.level :: draft.outer
    groups := draft.groups + 1 }

/-- A draft in which a group ends, with the levels outside of it. -/
def closeGroup (draft : Draft) (outside : Level) (outer : List Level) : Draft :=
  let number := draft.level.number
  let complete := number :: draft.complete ++ draft.level.completeSince
  let (group, sameAs) :=
    match draft.level.whole with
    | .group inner false body => (Expression.group number false body, [(inner, number)])
    | body => (.group number false body, [])
  { draft with
    level := outside.add group, outer, complete, sameAs := sameAs ++ draft.sameAs }

/-- A draft in which the operand is repeated; if there is none, the character stands for itself or
is refused. -/
def repeatOperand (d : Dialect) (draft : Draft) (c : Char) (least : Nat) (most : Option Nat) :
    Except ExpressionFault Draft :=
  match draft.level.operand with
  | some e =>
    -- In the basic notation nothing is repeated twice in these two ways.
    if !d.isExtended && draft.level.isRepeated && (c = '*' || c = '\x7b') then .error .badRepetition
    else
      let level :=
        { draft.level with operand := some (e.repeated least most), isRepeated := true }
      .ok { draft with level }
  | none =>
    if d.isExtended || c = '\x7b' then .error .badRepetition else .ok (draft.add (.one (.single c)))

end Draft

/-- What one piece does to a draft, before some rest: the draft, the rest after it, and whether a
caret stands for the start of a line there. -/
def addPiece (d : Dialect) (draft : Draft) (rest : Chars) :
    Piece → Except ExpressionFault (Draft × Chars × Bool)
  | .char c => .ok (draft.add (.one (.single c)), rest, false)
  | .set s => .ok (draft.add (.one s), rest, false)
  | .spot s => .ok (draft.addFixed (.spot s), rest, false)
  | .wordEdge =>
    .ok (draft.addFixed (.either (.spot .wordStart) (.spot .wordEnd)), rest, false)
  | .noWordEdge =>
    .ok (draft.addFixed (.either (.spot .insideWord) (.spot .outsideWords)), rest, false)
  | .again group =>
    if draft.complete.contains group then .ok (draft.add (.again group), rest, false)
    else .error .badReference
  | .bar => .ok (draft.addBar, rest, true)
  | .opening => .ok (draft.openGroup, rest, true)
  | .closing =>
    match draft.outer with
    | outside :: outer => .ok (draft.closeGroup outside outer, rest, false)
    | [] =>
      if d.allowsLoneClose then .ok (draft.add (.one (.single ')')), rest, false)
      else .error .unopenedGroup
  | .star => (draft.repeatOperand d '*' 0 none).map (·, rest, false)
  | .plus => (draft.repeatOperand d '+' 1 none).map (·, rest, false)
  | .mark => (draft.repeatOperand d '?' 0 (some 1)).map (·, rest, false)
  | .openCount c =>
    if draft.level.operand.isNone || (!d.isExtended && draft.level.isRepeated) then
      .error .badRepetition
    else do
      let (least, most, rest) ← d.count rest
      return (← draft.repeatOperand d c least most, rest, false)
  | .closeCount => .ok (draft.add (.one (.single '\x7d')), rest, false)
  | .bracket => do
    let (found, rest) ← d.bracketSet rest
    let draft := { draft with looksLikeClass := draft.looksLikeClass || found.looksLikeClass }
    return (draft.add (.one found.set), rest, false)
  | .backslash => .error .trailingBackslash
  | .finish => .ok (draft, [], false)

/-- Reads an expression to its end. The first argument bounds the pieces. -/
def readFrom (d : Dialect) : Nat → Bool → Draft → Chars → Except ExpressionFault Draft
  | 0, _, draft, _ => .ok draft
  | bound + 1, caret, draft, text => do
    match d.nextPiece caret text with
    | (.finish, _) => if draft.outer.isEmpty then return draft else .error .openGroup
    | (piece, rest) => do
      let (draft, rest, caret) ← d.addPiece draft rest piece
      readFrom d bound caret draft rest

end Dialect

/-- A regular expression with what is known of its groups. -/
structure GroupedExpression where
  expression : Expression
  groups : Nat
  /-- Groups that are all there is of another group, with that group. -/
  sameAs : List (Nat × Nat)
  /-- Some set in it looks like a class of characters. -/
  looksLikeClass : Bool

/-- The expression that a text is in some dialect. -/
def Dialect.read (d : Dialect) (text : Chars) : Except ExpressionFault GroupedExpression :=
  (d.readFrom (text.length + 1) true {} text).map fun draft =>
    { expression := draft.level.whole
      groups := draft.groups
      sameAs := draft.sameAs
      looksLikeClass := draft.looksLikeClass }

end Dialogue
