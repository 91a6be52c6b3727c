import Dialogue.Shell.Syntax

/-!
The tokens of a script, and what they are called in complaints.
-/

namespace Dialogue.Shell

/-- The operators that redirect a descriptor. -/
inductive RedirectionSign
  | file (mode : FileMode)
  | duplicate
  /-- To a text in the script, of whose lines the tabs may be taken away. -/
  | text (stripsTabs : Bool)
deriving Repr, DecidableEq

/-- A token. -/
inductive Token
  /-- A word; the flag says that something in it is quoted. -/
  | word (word : Word) (isQuoted : Bool)
  | keyword (keyword : Keyword)
  | redirection (descriptor : Nat) (sign : RedirectionSign)
  | newline
  | semicolon
  | ampersand
  | andIf
  | orIf
  | pipe
  | openParen
  | closeParen
  /-- The end of an arm. -/
  | endArm
  | endOfFile

namespace Token

/-- What a token is called. -/
def name : Token → String
  | .word _ _ => "word"
  | .keyword k => s!"\"{k.text}\""
  | .redirection _ _ => "redirection"
  | .newline => "newline"
  | .semicolon => "\";\""
  | .ampersand => "\"&\""
  | .andIf => "\"&&\""
  | .orIf => "\"||\""
  | .pipe => "\"|\""
  | .openParen => "\"(\""
  | .closeParen => "\")\""
  | .endArm => "\";;\""
  | .endOfFile => "end of file"

/-- Whether a token ends a list of commands. -/
def endsList : Token → Bool
  | .closeParen => true
  | .endArm => true
  | .endOfFile => true
  | .keyword k =>
    [Keyword.doWord, .doneWord, .elifWord, .elseWord, .esacWord, .fiWord, .thenWord,
      .closeBrace].contains k
  | _ => false

/-- Whether a token is a keyword. -/
def isKeyword (token : Token) (k : Keyword) : Bool :=
  match token with
  | .keyword other => k == other
  | _ => false

end Token

end Dialogue.Shell
