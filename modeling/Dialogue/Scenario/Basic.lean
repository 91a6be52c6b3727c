/-!
Scenarios: what is said to a program and what it must answer. A scenario has the program's
arguments and an ordered list of steps; a step may send a line, expect output on one of the two
output streams, or both.
-/

namespace Dialogue

/-- One of the two streams on which a program answers. -/
inductive Stream
  | stdout
  | stderr
deriving Repr, DecidableEq

/-- The name of a stream in reports. -/
def Stream.name : Stream → String
  | .stdout => "stdout"
  | .stderr => "stderr"

/-- The stream that is not this one. -/
def Stream.other : Stream → Stream
  | .stdout => .stderr
  | .stderr => .stdout

/-- What a step wants to read: an exact text, or any output at all if there is no text. -/
structure Expectation where
  stream : Stream
  text : Option String
deriving Repr, DecidableEq

/-- One step of a scenario. -/
structure Step where
  /-- A remark, shown before the step. -/
  comment : Option String := none
  /-- The text that is sent, its newline included. -/
  input : Option String := none
  /-- The text that is expected, each line with its newline. -/
  output : Option String := none
  /-- The answer is expected on stderr, not on stdout. -/
  onStderr : Bool := false
  /-- The program is expected to end after this step. -/
  closes : Bool := false
deriving Repr, DecidableEq

namespace Step

/-- A step of which only the comment is there. -/
def ofComment (text : String) : Step :=
  { comment := some text }

/-- A step that only sends a text. -/
def ofInput (text : String) : Step :=
  { input := some text }

/-- A step that only expects a text on stdout. -/
def ofOutput (text : String) : Step :=
  { output := some text }

/-- Whether a step has a comment and nothing else. -/
def isBareComment (step : Step) : Bool :=
  step.comment.isSome && step.input.isNone && step.output.isNone && !step.onStderr
    && !step.closes

/-- What a step expects: on stderr its text, or anything if it has none; on stdout its text, or
nothing if it has none. -/
def expectation (step : Step) : Option Expectation :=
  if step.onStderr then some ⟨.stderr, step.output⟩
  else step.output.map fun text => ⟨.stdout, some text⟩

end Step

/-- A scenario, ready to be played once. -/
structure Scenario where
  /-- The name under which it is reported. -/
  name : String
  /-- The arguments of the program, in order. -/
  arguments : List String := []
  /-- The steps, in order. -/
  steps : List Step := []
deriving Repr, DecidableEq

/-- Whether the program is expected to end with the last of these steps. -/
def Step.closesLast (steps : List Step) : Bool :=
  match steps.getLast? with
  | none => false
  | some last => last.closes

end Dialogue
