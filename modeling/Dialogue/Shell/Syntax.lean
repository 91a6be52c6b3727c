import Dialogue.Machine.Program
import Dialogue.Text.Latin

/-!
The language of the shell: words with what is to be worked out in them, redirections, and commands
put together from commands. A text that stands in a script below the command that reads it has a
number here; the texts themselves are kept apart.
-/

namespace Dialogue.Shell

/-- What is made of a parameter. -/
inductive Form
  /-- Nothing: what stands between the braces makes no sense. -/
  | illegal
  | plain
  /-- Its length. -/
  | length
  /-- The word in its place if it is not set. -/
  | orElse
  /-- As before, and the parameter is set to the word. -/
  | orAssign
  /-- The word is a complaint if it is not set. -/
  | orFail
  /-- The word if it is set. -/
  | ifSet
  /-- Without what the word matches at its start or at its end. -/
  | trim (atStart longest : Bool)
deriving Repr, DecidableEq

/-- How a redirection opens a file. -/
inductive FileMode
  | read
  | write
  /-- To be written anew even if files are not to be overwritten. -/
  | clobber
  | append
  | update
deriving Repr, DecidableEq

mutual

/-- A part of a word. -/
inductive Part
  | plain (c : Char)
  /-- A character that stands for nothing but itself. -/
  | escaped (c : Char)
  /-- Quotes begin or end here. -/
  | quote
  /-- A parameter. The flag says that an empty one counts as one that is not set. -/
  | parameter (name : Chars) (form : Form) (emptyToo : Bool) (word : List Part)
  /-- The output of a command. -/
  | output (command : Option Command)
  /-- The value of an expression. -/
  | arithmetic (expression : List Part)

/-- Where a descriptor is redirected. -/
inductive Redirection
  | file (descriptor : Nat) (mode : FileMode) (target : List Part)
  /-- To another descriptor, or closed for a hyphen. -/
  | duplicate (descriptor : Nat) (source : List Part)
  /-- To the text of a number. -/
  | text (descriptor : Nat) (number : Nat)

/-- A command. Those that can complain know the line that they are on. -/
inductive Command
  /-- Assignments, words and redirections. -/
  | simple (line : Nat) (assignments : List (Chars × List Part)) (words : List (List Part))
      (redirections : List Redirection)
  /-- Commands of which each reads what the one before it writes. -/
  | pipeline (commands : List Command) (inBackground : Bool)
  | negated (command : Command)
  | sequence (first second : Command)
  | andThen (first second : Command)
  | orElse (first second : Command)
  | background (command : Command)
  | ifElse (condition yes : Command) (no : Option Command)
  /-- A loop as long as, or until, the condition holds. -/
  | loop (until? : Bool) (condition body : Command)
  | forEach (line : Nat) (name : Chars) (words : List (List Part)) (body : Command)
  | caseOf (line : Nat) (word : List Part) (arms : List (List (List Part) × Option Command))
  | subshell (line : Nat) (body : Command) (redirections : List Redirection)
  | redirected (line : Nat) (body : Command) (redirections : List Redirection)
  | define (name : Chars) (body : Command)

end

/-- A word. -/
abbrev Word := List Part

/-- A text that stands in a script. -/
structure HereText where
  /-- Whether something in it is to be worked out. -/
  isExpanded : Bool
  word : Word

/-- The words of which the language is built. -/
inductive Keyword
  | bang
  | caseWord | doWord | doneWord | elifWord | elseWord | esacWord | fiWord | forWord | ifWord
  | inWord | thenWord | untilWord | whileWord
  | openBrace | closeBrace
deriving Repr, DecidableEq

namespace Keyword

/-- How a keyword is written. -/
def text : Keyword → String
  | .bang => "!"
  | .caseWord => "case"
  | .doWord => "do"
  | .doneWord => "done"
  | .elifWord => "elif"
  | .elseWord => "else"
  | .esacWord => "esac"
  | .fiWord => "fi"
  | .forWord => "for"
  | .ifWord => "if"
  | .inWord => "in"
  | .thenWord => "then"
  | .untilWord => "until"
  | .whileWord => "while"
  | .openBrace => "\x7b"
  | .closeBrace => "\x7d"

/-- All keywords. -/
def all : List Keyword :=
  [bang, caseWord, doWord, doneWord, elifWord, elseWord, esacWord, fiWord, forWord, ifWord,
    inWord, thenWord, untilWord, whileWord, openBrace, closeBrace]

/-- The keyword that is written so. -/
def ofText? (text : Chars) : Option Keyword := all.find? fun k => k.text.toList == text

/-- A keyword is found under its text. -/
theorem ofText?_text (k : Keyword)
    : ofText? k.text.toList = some k := by
  cases k <;> cbv

end Keyword

/-- Whether a character may start a name. -/
def isNameStart (c : Char) : Bool := c.isAlpha || c == '_'

/-- Whether a character may stand in a name. -/
def isNameChar (c : Char) : Bool := c.isAlphanum || c == '_'

/-- Whether a text is a name. -/
def isName : Chars → Bool
  | c :: rest => isNameStart c && rest.all isNameChar
  | [] => false

/-- The parameters that have a sign for a name. -/
def isSpecial (c : Char) : Bool := "@*#?-$!".toList.contains c || c.isDigit

/-- The characters that mean something in patterns or beside a tilde. -/
def isGuarded (c : Char) : Bool := "\\!*?[=~:/-]".toList.contains c

/-- What stands before an equals sign in a word, and what follows the sign. -/
def splitAssignedWord? : Word → Option (Chars × Word)
  | .plain c :: rest =>
    if c = '=' then some ([], rest)
    else if isNameChar c then
      (splitAssignedWord? rest).map fun (name, value) => (c :: name, value)
    else none
  | _ => none

/-- The assignment that a word is, if it is one. -/
def assignment? (word : Word) : Option (Chars × Word) :=
  match splitAssignedWord? word with
  | some (name, value) => if isName name then some (name, value) else none
  | none => none

/-- The commands whose faults end a shell, and whose names no function may have. -/
def specialCommands : List String :=
  [":", ".", "break", "continue", "eval", "exec", "exit", "export", "local", "readonly", "return",
    "set", "shift", "times", "trap", "unset"]

/-- The characters of a word without its quotes, as far as nothing is to be worked out. -/
def plainText : Word → Chars
  | [] => []
  | .plain c :: rest => c :: plainText rest
  | .escaped c :: rest => c :: plainText rest
  | _ :: rest => plainText rest

/-- The characters of a word of which none is quoted and nothing is to be worked out. -/
def bareText? : Word → Option Chars
  | [] => some []
  | .plain c :: rest => (bareText? rest).map (c :: ·)
  | _ :: _ => none

end Dialogue.Shell
