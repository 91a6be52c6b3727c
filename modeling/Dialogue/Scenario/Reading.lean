import Dialogue.Scenario.Basic
import Dialogue.Text.Line

/-!
Reading a scenario from its text. A line's first characters say what it is: `> ` sends, `<e` marks
the answer as one on stderr, `#` remarks, `$$ ` adds an argument, `<r` and `<l` are reserved, and
any other line is expected output. The lines are taken one by one into a draft; a comment waits
there for the input that follows it, and output lines gather in the step before them. At the end
comments that no step took up are dropped, and the last step is the one that closes.
-/

namespace Dialogue

/-- A reserved directive, which no scenario may use yet. -/
inductive Directive
  | r
  | l
deriving Repr, DecidableEq

/-- A directive as it is written. -/
def Directive.text : Directive → String
  | .r => "<r"
  | .l => "<l"

/-- A line of a scenario's text, by what it says. -/
inductive Line
  | blank
  | input (text : List Char)
  | errorMark
  | comment (text : List Char)
  | argument (text : List Char)
  | reserved (directive : Directive)
  | output (text : List Char)
deriving Repr, DecidableEq

namespace Line

/-- What a line says, its ending left off. The text of a comment is trimmed; what follows an error
mark or a reserved directive says nothing. -/
def ofText : List Char → Line
  | [] => .blank
  | '>' :: ' ' :: rest => .input rest
  | '<' :: 'e' :: _ => .errorMark
  | '#' :: rest => .comment (Text.trim rest)
  | '$' :: '$' :: ' ' :: rest => .argument rest
  | '<' :: 'r' :: _ => .reserved .r
  | '<' :: 'l' :: _ => .reserved .l
  | text => .output text

end Line

/-- A reserved directive was used, on the line with this number, the first line being 1. -/
structure ReservedDirective where
  directive : String
  line : Nat
deriving Repr, DecidableEq

/-- The complaint about a reserved directive, without its place. -/
def ReservedDirective.complaint (e : ReservedDirective) : String :=
  s!"unsupported directive '{e.directive}'"

/-- The complaint about a reserved directive, with its line. -/
def ReservedDirective.message (e : ReservedDirective) : String :=
  s!"line {e.line}: {e.complaint}"

/-- What has been read of a scenario: its steps and arguments, the latest first. -/
structure Draft where
  steps : List Step := []
  arguments : List String := []
deriving Repr, DecidableEq

namespace Draft

/-- A line's text with its newline. -/
def withNewline (text : List Char) : String :=
  String.ofList (text ++ ['\n'])

/-- Takes up an input line: it joins a comment that waits for it, and otherwise opens a step. -/
def addInput (text : List Char) : List Step → List Step
  | [] => [.ofInput (withNewline text)]
  | latest :: earlier =>
    if latest.isBareComment then { latest with input := some (withNewline text) } :: earlier
    else .ofInput (withNewline text) :: latest :: earlier

/-- Takes up an error mark: it concerns the latest step, and opens one only at the very start. -/
def addErrorMark : List Step → List Step
  | [] => [{ onStderr := true }]
  | latest :: earlier => { latest with onStderr := true } :: earlier

/-- Takes up an output line: it joins the latest step, and opens one only at the very start. -/
def addOutput (text : List Char) : List Step → List Step
  | [] => [.ofOutput (withNewline text)]
  | latest :: earlier =>
    { latest with output := some (latest.output.getD "" ++ withNewline text) } :: earlier

/-- Takes up a line; a reserved directive is refused. -/
def add (draft : Draft) : Line → Except Directive Draft
  | .blank => .ok draft
  | .input text => .ok { draft with steps := addInput text draft.steps }
  | .errorMark => .ok { draft with steps := addErrorMark draft.steps }
  | .comment text => .ok { draft with steps := .ofComment (String.ofList text) :: draft.steps }
  | .argument text => .ok { draft with arguments := String.ofList text :: draft.arguments }
  | .reserved directive => .error directive
  | .output text => .ok { draft with steps := addOutput text draft.steps }

/-- Takes up lines, the first of which has the given number. -/
def addAll (draft : Draft) (number : Nat) : List Line → Except ReservedDirective Draft
  | [] => .ok draft
  | line :: rest =>
    match draft.add line with
    | .error directive => .error ⟨directive.text, number⟩
    | .ok next => next.addAll (number + 1) rest

/-- Marks the first of these steps, which is the latest, as the one that closes. -/
def closeLatest : List Step → List Step
  | [] => []
  | latest :: earlier => { latest with closes := true } :: earlier

/-- The finished scenario. -/
def finish (name : String) (draft : Draft) : Scenario :=
  { name
    arguments := draft.arguments.reverse
    steps := (closeLatest (draft.steps.filter fun step => !step.isBareComment)).reverse }

end Draft

namespace Scenario

/-- The lines of a scenario's text; a carriage return before a newline is part of the ending. -/
def linesOf (text : List Char) : List Line :=
  (Text.pieces text).map fun piece => .ofText (Text.dropReturn piece)

/-- Reads a scenario from its text. -/
def read (name : String) (text : String) : Except ReservedDirective Scenario :=
  (Draft.addAll {} 1 (linesOf text.toList)).map (Draft.finish name)

end Scenario

end Dialogue
