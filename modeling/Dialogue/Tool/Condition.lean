import Dialogue.Machine.Program
import Dialogue.Number.Whole

/-!
Conditions: the arguments of `test`, with its comparisons of texts and numbers and its questions
about files.
-/

namespace Dialogue.Tool

/-- A condition. -/
inductive Condition
  | value (b : Bool)
  | negated (c : Condition)
  | both (first second : Condition)
  | either (first second : Condition)
  /-- A question about what is at a path. -/
  | file (question : Char) (path : Chars)
  /-- A comparison of what is at two paths. -/
  | files (comparison : String) (first second : Chars)

/-- Why arguments are no condition. -/
inductive ConditionError
  | badNumber (argument : Chars)
  /-- Something stands after what would have been a condition. -/
  | unexpected (argument : Chars)
  /-- An operator has no argument. -/
  | noArgument (operator : Chars)
  /-- A bracket is not closed. -/
  | unclosed
deriving Repr

/-- What an argument means where a condition is read. -/
inductive ConditionWord
  /-- There is none. -/
  | nothing
  /-- A text. -/
  | operand
  /-- A question about one text, by its letter. -/
  | unary (question : Char)
  /-- A comparison, by its name. -/
  | binary (name : String)
  | negation
  | conjunction
  | disjunction
  | opening
  | closing
deriving Repr, DecidableEq

/-- The comparisons of texts, numbers and files. The flag adds the double equals sign. -/
def comparisons (doubled : Bool) : List String :=
  ["=", "!=", "<", ">", "-eq", "-ne", "-lt", "-le", "-gt", "-ge", "-nt", "-ot", "-ef"]
    ++ if doubled then ["=="] else []

/-- What an argument means on its own. -/
def ConditionWord.of (doubled : Bool) (argument : Chars) : ConditionWord :=
  match argument with
  | ['!'] => .negation
  | ['('] => .opening
  | [')'] => .closing
  | ['-', 'a'] => .conjunction
  | ['-', 'o'] => .disjunction
  | argument =>
    let name := String.ofList argument
    if (comparisons doubled).contains name then .binary name
    else
      match argument with
      | ['-', c] => if "nzedfrwxsLhpSbcugkOGt".toList.contains c then .unary c else .operand
      | _ => .operand

/-- What the first of some arguments means there. A question needs something to ask about that is
not compared with something else, and a bracket something inside. -/
def wordAt (doubled : Bool) (arguments : List Chars) : ConditionWord :=
  match arguments with
  | [] => .nothing
  | argument :: rest =>
    match ConditionWord.of doubled argument, rest with
    | .unary _, [] => .operand
    | .unary question, [_] => .unary question
    | .unary question, second :: _ :: _ =>
      match ConditionWord.of doubled second with
      | .binary _ => .operand
      | _ => .unary question
    | .opening, [] => .operand
    | word, _ => word

/-- The number that an argument gives. -/
def conditionNumber (argument : Chars) : Except ConditionError Int :=
  match Number.wholeText? argument with
  | some n => .ok n
  | none => .error (.badNumber argument)

/-- The result of comparing numbers. -/
def compareNumbers (first second : Chars) (holds : Int → Int → Bool) :
    Except ConditionError Condition := do
  let a ← conditionNumber first
  let b ← conditionNumber second
  return .value (holds a b)

/-- Whether one text comes before another, character by character. -/
def comesBefore : Chars → Chars → Bool
  | _, [] => false
  | [], _ :: _ => true
  | a :: first, b :: second => if a = b then comesBefore first second else a < b

/-- The result of a comparison. -/
def compareTexts (name : String) (first second : Chars) : Except ConditionError Condition :=
  match name with
  | "!=" => .ok (.value (first != second))
  | "<" => .ok (.value (comesBefore first second))
  | ">" => .ok (.value (comesBefore second first))
  | "-eq" => compareNumbers first second fun a b => a == b
  | "-ne" => compareNumbers first second fun a b => a != b
  | "-lt" => compareNumbers first second fun a b => a < b
  | "-le" => compareNumbers first second fun a b => a ≤ b
  | "-gt" => compareNumbers first second fun a b => b < a
  | "-ge" => compareNumbers first second fun a b => b ≤ a
  | "-nt" => .ok (.files name first second)
  | "-ot" => .ok (.files name first second)
  | "-ef" => .ok (.files name first second)
  | _ => .ok (.value (first == second))

/-- The answer to a question about one text. No descriptor is a terminal. -/
def askAbout (question : Char) (argument : Chars) : Except ConditionError Condition :=
  match question with
  | 'z' => .ok (.value argument.isEmpty)
  | 'n' => .ok (.value !argument.isEmpty)
  | 't' => (conditionNumber argument).map fun _ => .value false
  | question => .ok (.file question argument)

/-- A condition that was read, and the arguments from the last one on that belongs to it. -/
structure ConditionRead where
  condition : Condition
  last : List Chars

/-- Reads a text, and what it is compared with if it is. -/
def comparison (doubled : Bool) (arguments : List Chars) : Except ConditionError ConditionRead :=
  let first := arguments.headD []
  match wordAt doubled (arguments.drop 1) with
  | .binary name =>
    match arguments[2]? with
    | some second => do return ⟨← compareTexts name first second, arguments.drop 2⟩
    | none => .error (.noArgument name.toList)
  | _ => .ok ⟨.value !first.isEmpty, arguments⟩

mutual

/-- Reads alternatives. The first argument bounds the nesting. -/
def alternatives (doubled : Bool) : Nat → List Chars → Except ConditionError ConditionRead
  | 0, _ => .error .unclosed
  | bound + 1, arguments => do
    let first ← conjunction doubled bound arguments
    if wordAt doubled (first.last.drop 1) = .disjunction then
      let second ← alternatives doubled bound (first.last.drop 2)
      return { second with condition := .either first.condition second.condition }
    else return first

/-- Reads conditions that must hold together. -/
def conjunction (doubled : Bool) : Nat → List Chars → Except ConditionError ConditionRead
  | 0, _ => .error .unclosed
  | bound + 1, arguments => do
    let first ← negation doubled bound arguments
    if wordAt doubled (first.last.drop 1) = .conjunction then
      let second ← conjunction doubled bound (first.last.drop 2)
      return { second with condition := .both first.condition second.condition }
    else return first

/-- Reads a condition that may be negated. -/
def negation (doubled : Bool) : Nat → List Chars → Except ConditionError ConditionRead
  | 0, _ => .error .unclosed
  | bound + 1, arguments =>
    if wordAt doubled arguments = .negation then
      match arguments.drop 1 with
      | [] => .ok ⟨.value true, arguments⟩
      | rest => do
        let found ← negation doubled bound rest
        return { found with condition := .negated found.condition }
    else primary doubled bound arguments

/-- Reads one condition. -/
def primary (doubled : Bool) : Nat → List Chars → Except ConditionError ConditionRead
  | 0, _ => .error .unclosed
  | bound + 1, arguments =>
    match wordAt doubled arguments with
    | .nothing => .ok ⟨.value false, arguments⟩
    | .opening =>
      let inside := arguments.drop 1
      if wordAt doubled inside = .closing then .ok ⟨.value false, inside⟩
      else do
        let found ← alternatives doubled bound inside
        if wordAt doubled (found.last.drop 1) = .closing then
          return { found with last := found.last.drop 1 }
        else throw .unclosed
    | .unary question => do
      return ⟨← askAbout question ((arguments.drop 1).headD []), arguments.drop 1⟩
    | _ => comparison doubled arguments

end

/-- Reads all arguments as one condition. -/
def wholeCondition (doubled : Bool) (arguments : List Chars) : Except ConditionError Condition := do
  let found ← alternatives doubled (5 * arguments.length + 5) arguments
  match found.last with
  | last :: _ :: _ => throw (.unexpected last)
  | _ => return found.condition

/-- The condition that arguments say; none at all say what is false. Of three arguments a comparison
in the middle counts first, and brackets around all of three or four next. An exclamation mark
before them says that the opposite is meant, and so do several. -/
def condition (doubled : Bool) (arguments : List Chars) : Except ConditionError Condition :=
  let bracketed (inside : List Chars) : Except ConditionError Condition :=
    wholeCondition doubled inside
  match arguments with
  | [] => .ok (.value false)
  | [first, operator, second] =>
    match ConditionWord.of doubled operator with
    | .binary _ => (comparison doubled arguments).map (·.condition)
    | _ =>
      if first = ['('] ∧ second = [')'] then bracketed [operator]
      else if first = ['!'] then (wholeCondition doubled [operator, second]).map .negated
      else wholeCondition doubled arguments
  | [first, second, third, fourth] =>
    if first = ['('] ∧ fourth = [')'] then bracketed [second, third]
    else if first = ['!'] then
      match ConditionWord.of doubled third with
      | .binary _ => (comparison doubled [second, third, fourth]).map (.negated ·.condition)
      | _ =>
        if second = ['('] ∧ fourth = [')'] then (bracketed [third]).map .negated
        else if second = ['!'] then (wholeCondition doubled [third, fourth]).map .negated
        else (wholeCondition doubled [second, third, fourth]).map .negated
    else wholeCondition doubled arguments
  | arguments => wholeCondition doubled arguments

/-- The answer to a question about what is at a path. -/
def fileAnswer (question : Char) (kind : NodeKind) : Bool :=
  match question with
  | 'd' => kind.sort == .folder
  | 'f' => kind.sort == .file
  | 'L' => kind.sort == .link
  | 'h' => kind.sort == .link
  | 'p' => kind.sort == .pipe
  | 'c' => kind.sort == .device
  | 'x' => kind.isRunnable
  | 's' => 0 < kind.size
  | question => !"bSugk".toList.contains question

/-- The result of comparing what is at two paths. -/
def filesAnswer (comparison : String) (first second : NodeKind) : Bool :=
  match comparison with
  | "-nt" => second.changed < first.changed
  | "-ot" => first.changed < second.changed
  | _ => first.place == second.place

/-- Works out a condition, asking for files where it has to. -/
def decideCondition : Condition → (Bool → Program) → Program
  | .value b, next => next b
  | .negated c, next => decideCondition c fun b => next !b
  | .both first second, next =>
    decideCondition first fun a => decideCondition second fun b => next (a && b)
  | .either first second, next =>
    decideCondition first fun a => decideCondition second fun b => next (a || b)
  | .file question path, next =>
    -- A link is what it is only to the question whether it is one.
    .inspect (Text.toOctets path) (question != 'L' && question != 'h') fun
      | .ok kind => next (fileAnswer question kind)
      | .error _ => next false
  | .files comparison first second, next =>
    .inspect (Text.toOctets first) true fun first =>
      .inspect (Text.toOctets second) true fun second =>
        match first, second with
        | .ok first, .ok second => next (filesAnswer comparison first second)
        | _, _ => next false

end Dialogue.Tool
