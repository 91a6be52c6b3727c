import Dialogue.Expression.Search

/-!
Scripts for the line editor. A script is a row of commands, each with the addresses of the lines
that it is for. Commands that lead elsewhere in the script know the number of the command they lead
to.
-/

namespace Dialogue.LineEditor

/-- A regular expression, ready to be matched. -/
structure Matcher where
  automaton : Automaton
  dialect : Dialect

namespace Matcher

/-- The first and longest match in a text from a place on. The delimiter is the character that ends
lines. The flag says that what its groups have matched is wanted. -/
def search (m : Matcher) (delimiter : Char) (text : Chars) (start : Nat) (wantsGroups : Bool) :
    Option Found :=
  let folded := if m.dialect.anyCase then text.map m.dialect.fold else text
  let lineEnd := if m.dialect.perLine then some delimiter else none
  m.automaton.search { text := folded.toArray, lineEnd } start wantsGroups

/-- Whether there is a match in a text. -/
def isIn (m : Matcher) (delimiter : Char) (text : Chars) : Bool :=
  (m.search delimiter text 0 false).isSome

end Matcher

/-- What names lines. -/
inductive Address
  | everyLine
  | line (number : Nat)
  /-- A line and all that follow it in steps. -/
  | stride (first step : Nat)
  | lastLine
  /-- The lines that an expression matches; if there is none, the one that was used last. -/
  | matching (matcher : Option Matcher)

/-- What ends a range of lines. -/
inductive RangeEnd
  | address (address : Address)
  /-- So many lines after the first. -/
  | after (lines : Nat)
  /-- The next line whose number is a multiple. -/
  | multiple (of : Nat)

/-- How the case of letters is changed. -/
inductive LetterCase
  | kept
  | upper
  | lower
deriving Repr, DecidableEq

/-- A letter in another case. -/
def LetterCase.change (case : LetterCase) (c : Char) : Char :=
  match case with
  | .kept => c
  | .upper => c.toUpper
  | .lower => c.toLower

/-- How the letters of a text are changed: the first one, and all others. -/
structure CaseChange where
  first : LetterCase := .kept
  others : LetterCase := .kept
deriving Repr, DecidableEq

/-- A text with its letters changed. -/
def CaseChange.apply (change : CaseChange) : Chars → Chars
  | [] => []
  | c :: rest =>
    let first := if change.first = .kept then change.others else change.first
    first.change c :: rest.map change.others.change

/-- A part of what is put in the place of a match: a text, and then what a group has matched. -/
structure ReplacementPart where
  text : Chars
  /-- The group, zero for the whole match. -/
  group : Option Nat
  change : CaseChange

/-- Where something is written. -/
inductive Target
  | output
  | complaints
  /-- A file. -/
  | file (name : Chars)
deriving Repr, DecidableEq

/-- Whether a line that was replaced in is printed: before or after it is run as a command. -/
structure SubstitutionPrint where
  before : Bool := false
  after : Bool := false

/-- How matches are replaced. -/
structure Substitution where
  /-- If there is none, the one that was used last. -/
  matcher : Option Matcher
  replacement : List ReplacementPart
  everywhere : Bool := false
  /-- The match to begin with. -/
  occurrence : Nat := 1
  prints : SubstitutionPrint := {}
  runs : Bool := false
  target : Option Target := none

/-- The groups that a replacement asks for are those below this number. -/
def Substitution.groups (s : Substitution) : Nat :=
  s.replacement.foldl (fun most part => max most ((part.group.getD 0) + 1)) 1

/-- What a command does. -/
inductive Action
  /-- A block begins, or is passed over up to its end. -/
  | block (stop : Nat)
  /-- Nothing. -/
  | nothing
  /-- It goes to another command. -/
  | jump (goal : Nat)
  /-- The same if something has been replaced. -/
  | jumpIfReplaced (goal : Nat)
  /-- The same if nothing has been replaced. -/
  | jumpUnlessReplaced (goal : Nat)
  | append (text : Chars)
  | insert (text : Chars)
  | change (text : Chars)
  | delete
  | deleteFirst
  /-- It runs a command; if there is none, the line is the command. -/
  | execute (command : Option Chars)
  | printFileName
  | printNumber
  | get
  | getMore
  | hold
  | holdMore
  | exchange
  /-- It prints the line so that everything in it can be seen, in lines of some width. -/
  | list (width : Option Nat)
  | next
  | nextMore
  | print
  | printFirst
  | quit (prints : Bool) (code : Nat)
  | readFile (name : Chars)
  /-- It prints a file at once. -/
  | printFile (name : Chars)
  | readLine (name : Chars)
  | substitute (s : Substitution)
  | write (target : Target)
  | writeFirst (target : Target)
  | transliterate (table : List (Char × Char))
  | clear

/-- A command. -/
structure Command where
  first : Option Address := none
  last : Option RangeEnd := none
  negated : Bool := false
  action : Action := .nothing

/-- Whether a command is for the place before the first line. -/
def Command.isBeforeAll (command : Command) : Bool :=
  match command.first, command.last with
  | some (.line 0), none => true
  | _, _ => false

/-- Whether a command is for the lines of a range that has begun, before any line has been read. -/
def Command.beginsInside (command : Command) : Bool :=
  match command.first with
  | some (.line 0) => true
  | _ => false

/-- Why a script is refused. -/
inductive ScriptFault
  | twoNegations
  | unexpectedComma
  | firstCount
  | openBlock
  | unopenedBlock
  | junk
  | noText
  | addressedClose
  | addressedLabel
  | addressedComment
  | noCommand
  | tooManyAddresses
  | openAddress
  | openSubstitution
  | openTransliteration
  | unknownFlag
  | twoPrints
  | twoGlobals
  | twoNumbers
  | zeroNumber
  | unequalLengths
  | newerVersion
  | lineZero
  | unknownCommand (c : Char)
  | noLabel
  | nestedControl
  | confined
  | noFileName
  | modifiedLastExpression
  | noLastExpression
  | badReference (group : Nat)
  | expression (fault : ExpressionFault)
deriving Repr, DecidableEq

/-- What is said of a script that is refused. -/
def ScriptFault.text : ScriptFault → Chars
  | .twoNegations => Text.spell "multiple \x60!'s"
  | .unexpectedComma => Text.spell "unexpected \x60,'"
  | .firstCount => Text.spell "invalid usage of +N or ~N as first address"
  | .openBlock => Text.spell "unmatched \x60\x7b'"
  | .unopenedBlock => Text.spell "unexpected \x60\x7d'"
  | .junk => Text.spell "extra characters after command"
  | .noText => Text.spell "expected \\ after \x60a', \x60c' or \x60i'"
  | .addressedClose => Text.spell "\x60\x7d' doesn't want any addresses"
  | .addressedLabel => Text.spell ": doesn't want any addresses"
  | .addressedComment => Text.spell "comments don't accept any addresses"
  | .noCommand => Text.spell "missing command"
  | .tooManyAddresses => Text.spell "command only uses one address"
  | .openAddress => Text.spell "unterminated address regex"
  | .openSubstitution => Text.spell "unterminated \x60s' command"
  | .openTransliteration => Text.spell "unterminated \x60y' command"
  | .unknownFlag => Text.spell "unknown option to \x60s'"
  | .twoPrints => Text.spell "multiple \x60p' options to \x60s' command"
  | .twoGlobals => Text.spell "multiple \x60g' options to \x60s' command"
  | .twoNumbers => Text.spell "multiple number options to \x60s' command"
  | .zeroNumber => Text.spell "number option to \x60s' command may not be zero"
  | .unequalLengths => Text.spell "strings for \x60y' command are different lengths"
  | .newerVersion => Text.spell "expected newer version of sed"
  | .lineZero => Text.spell "invalid usage of line address 0"
  | .unknownCommand c => Text.spell "unknown command: \x60" ++ [c, '\'']
  | .noLabel => Text.spell "\":\" lacks a label"
  | .nestedControl => Text.spell "recursive escaping after \\c not allowed"
  | .confined => Text.spell "e/r/w commands disabled in sandbox mode"
  | .noFileName => Text.spell "missing filename in r/R/w/W commands"
  | .modifiedLastExpression => Text.spell "cannot specify modifiers on empty regexp"
  | .noLastExpression => Text.spell "no previous regular expression"
  | .badReference group => Text.spell s!"invalid reference \\{group} on \x60s' command's RHS"
  | .expression fault => Text.spell fault.text

end Dialogue.LineEditor
