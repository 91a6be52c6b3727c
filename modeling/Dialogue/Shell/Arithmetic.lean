import Dialogue.Number.Whole
import Dialogue.Shell.State

/-!
Arithmetic. An expression is worked out while it is read, from the left to the right, on numbers of
64 bits; a part that does not count is read all the same, but nothing in it is set or looked up.
-/

namespace Dialogue.Shell.Arithmetic

/-- The operators of two operands, each binding at least as closely as those after it. -/
inductive Operator
  | mul | div | rem | add | sub | shiftLeft | shiftRight
  | less | lessEq | greater | greaterEq | equal | notEqual | bitAnd | bitXor | bitOr
deriving Repr, DecidableEq

/-- A token of an expression. -/
inductive Token
  | number (value : Int64)
  | name (name : Chars)
  | operator (operator : Operator)
  /-- An assignment, with the operator that is applied before it. -/
  | assign (operator : Option Operator)
  | andAlso
  | orElse
  | question
  | colon
  | openParen
  | closeParen
  | not
  | complement
  /-- Something that no expression holds. -/
  | strange
  | ending
deriving Repr, DecidableEq

/-- Why an expression has no value. -/
inductive Fault
  /-- It makes no sense, or it divides by zero. -/
  | invalid (complaint : String)
  /-- A variable in it is no number. -/
  | notNumber (value : Chars)
  /-- A variable in it keeps its value. -/
  | readonly (name : Chars)
  /-- A division whose result does not fit ends the process. -/
  | overflow
deriving Repr, DecidableEq

/-- How closely an operator binds: the less, the closer. -/
def Operator.rank : Operator → Nat
  | mul => 0
  | div => 0
  | rem => 0
  | add => 1
  | sub => 1
  | shiftLeft => 2
  | shiftRight => 2
  | less => 3
  | lessEq => 3
  | greater => 3
  | greaterEq => 3
  | equal => 4
  | notEqual => 4
  | bitAnd => 5
  | bitXor => 6
  | bitOr => 7

/-- The rank that no operator reaches. -/
def maxRank : Nat := 8

/-- The number of a truth value. -/
def ofBool (b : Bool) : Int64 := if b then 1 else 0

/-- The value of an operation. -/
def Operator.apply (op : Operator) (a b : Int64) : Except Fault Int64 :=
  match op with
  | mul => .ok (a * b)
  | div =>
    if b = 0 then .error (.invalid "division by zero")
    else if a = Int64.minValue ∧ b = -1 then .error .overflow
    else .ok (a / b)
  | rem =>
    if b = 0 then .error (.invalid "division by zero")
    else if a = Int64.minValue ∧ b = -1 then .error .overflow
    else .ok (a % b)
  | add => .ok (a + b)
  | sub => .ok (a - b)
  | shiftLeft => .ok (a <<< b)
  | shiftRight => .ok (a >>> b)
  | less => .ok (ofBool (a < b))
  | lessEq => .ok (ofBool (a ≤ b))
  | greater => .ok (ofBool (b < a))
  | greaterEq => .ok (ofBool (b ≤ a))
  | equal => .ok (ofBool (a = b))
  | notEqual => .ok (ofBool (a ≠ b))
  | bitAnd => .ok (a &&& b)
  | bitXor => .ok (a ^^^ b)
  | bitOr => .ok (a ||| b)

/-- The signs of an expression with their tokens, the longer ones first. -/
def signs : List (String × Token) :=
  [("<<=", .assign (some .shiftLeft)), (">>=", .assign (some .shiftRight)),
    ("<<", .operator .shiftLeft), (">>", .operator .shiftRight), ("<=", .operator .lessEq),
    (">=", .operator .greaterEq), ("==", .operator .equal), ("!=", .operator .notEqual),
    ("&&", .andAlso), ("||", .orElse), ("*=", .assign (some .mul)), ("/=", .assign (some .div)),
    ("%=", .assign (some .rem)), ("+=", .assign (some .add)), ("-=", .assign (some .sub)),
    ("&=", .assign (some .bitAnd)), ("^=", .assign (some .bitXor)), ("|=", .assign (some .bitOr)),
    ("=", .assign none), ("<", .operator .less), (">", .operator .greater), ("*", .operator .mul),
    ("/", .operator .div), ("%", .operator .rem), ("+", .operator .add), ("-", .operator .sub),
    ("&", .operator .bitAnd), ("^", .operator .bitXor), ("|", .operator .bitOr), ("!", .not),
    ("~", .complement), ("?", .question), (":", .colon), ("(", .openParen), (")", .closeParen)]

/-- The token at the start of a text, and the rest. Behind something strange nothing is read. -/
def token (text : Chars) : Token × Chars :=
  match text.dropWhile fun c => c == ' ' || c == '\t' || c == '\n' with
  | [] => (.ending, [])
  | c :: rest =>
    let text := c :: rest
    if c.isDigit then
      match Number.whole64? none text with
      | some number => (.number (Int64.ofInt number.value), number.rest)
      | none => (.strange, text)
    else if isNameStart c then
      (.name (text.takeWhile isNameChar), text.dropWhile isNameChar)
    else
      match signs.find? fun (sign, _) => sign.toList.isPrefixOf text with
      | some (sign, token) => (token, text.drop sign.length)
      | none => (.strange, text)

/-- Where the reading of an expression is. -/
structure Progress where
  rest : Chars
  /-- The token that was read and not yet used. -/
  next : Token := .ending
  shell : State

/-- The working out of an expression. -/
abbrev Working (α : Type) := StateT Progress (Except Fault) α

/-- Takes a token. -/
def take : Working Token := do
  let s ← get
  let (token, rest) := token s.rest
  MonadStateOf.set { s with rest }
  return token

/-- Leaves a token to be used next. -/
def leave (token : Token) : Working Unit := modify fun s => { s with next := token }

/-- The number that a variable holds; one without a value holds zero. -/
def lookUp (name : Chars) : Working Int64 := do
  match (← get).shell.get? name with
  | none => return 0
  | some text =>
    if text.all Number.isNumberBlank then return 0
    else
      match Number.whole64? none text with
      | some number =>
        if number.isHeld || !number.rest.all Number.isNumberBlank then throw (.notNumber text)
        else return Int64.ofInt number.value
      | none => throw (.notNumber text)

/-- Sets a variable to a number. -/
def setVariable (name : Chars) (value : Int64) : Working Unit := do
  let s ← get
  if (s.shell.known? name).any (·.isReadonly) then throw (.readonly name)
  else MonadStateOf.set { s with shell := s.shell.set name (Text.decimalInt value.toInt) }

mutual

/-- Works out an operand that begins with a token, which another one follows. The flag says that it
does not count. The first argument bounds the depth, as in what follows. -/
def operand : Nat → Bool → Token → Token → Working Int64
  | 0, _, _, _ => throw (.invalid "expecting primary")
  | depth + 1, idle, first, second =>
    match first with
    | .openParen => do
      let value ← assignment depth idle second
      if (← get).next ≠ .closeParen then throw (.invalid "expecting ')'")
      leave (← take)
      return value
    | .number value => do
      leave second
      return value
    | .name name => do
      leave second
      if idle then return 0 else lookUp name
    | .operator .add => do operand depth idle second (← take)
    | .operator .sub => do return -(← operand depth idle second (← take))
    | .not => do return ofBool ((← operand depth idle second (← take)) = 0)
    | .complement => do return ~~~(← operand depth idle second (← take))
    | _ => throw (.invalid "expecting primary")

/-- Works out operations that follow an operand, as long as they bind more closely than a rank. -/
def operations : Nat → Bool → Nat → Int64 → Operator → Working Int64
  | 0, _, _, _, _ => throw (.invalid "expecting primary")
  | depth + 1, idle, rank, a, op => do
    let b ← operand depth idle (← take) (← take)
    let b ←
      match (← get).next with
      | .operator next =>
        if next.rank < op.rank then operations depth idle op.rank b next else pure b
      | _ => pure b
    let value ←
      if idle then pure b
      else
        match op.apply a b with
        | .ok value => pure value
        | .error fault => throw fault
    match (← get).next with
    | .operator next =>
      if rank ≤ next.rank then return value else operations depth idle rank value next
    | _ => return value

/-- Works out operations. -/
def calculation : Nat → Bool → Token → Token → Working Int64
  | 0, _, _, _ => throw (.invalid "expecting primary")
  | depth + 1, idle, first, second => do
    let a ← operand depth idle first second
    match (← get).next with
    | .operator op => operations depth idle maxRank a op
    | _ => return a

/-- Works out what holds if all of several calculations do. -/
def conjunction : Nat → Bool → Token → Token → Working Int64
  | 0, _, _, _ => throw (.invalid "expecting primary")
  | depth + 1, idle, first, second => do
    let a ← calculation depth idle first second
    if (← get).next ≠ .andAlso then return a
    else
      let b ← conjunction depth (idle || a = 0) (← take) (← take)
      return ofBool (a ≠ 0 && b ≠ 0)

/-- Works out what holds if one of several conjunctions does. -/
def disjunction : Nat → Bool → Token → Token → Working Int64
  | 0, _, _, _ => throw (.invalid "expecting primary")
  | depth + 1, idle, first, second => do
    let a ← conjunction depth idle first second
    if (← get).next ≠ .orElse then return a
    else
      let b ← disjunction depth (idle || a ≠ 0) (← take) (← take)
      return ofBool (a ≠ 0 || b ≠ 0)

/-- Works out a choice between two values. -/
def choice : Nat → Bool → Token → Token → Working Int64
  | 0, _, _, _ => throw (.invalid "expecting primary")
  | depth + 1, idle, first, second => do
    let a ← disjunction depth idle first second
    if (← get).next ≠ .question then return a
    else
      let b ← assignment depth (idle || a = 0) (← take)
      if (← get).next ≠ .colon then throw (.invalid "expecting ':'")
      let c ← choice depth (idle || a ≠ 0) (← take) (← take)
      return if a ≠ 0 then b else c

/-- Works out an assignment, or a choice. -/
def assignment : Nat → Bool → Token → Working Int64
  | 0, _, _ => throw (.invalid "expecting primary")
  | depth + 1, idle, first => do
    let second ← take
    match first, second with
    | .name name, .assign op => do
      let value ← assignment depth idle (← take)
      if idle then return value
      else
        let value ←
          match op with
          | none => pure value
          | some op => do
            match op.apply (← lookUp name) value with
            | .ok value => pure value
            | .error fault => throw fault
        setVariable name value
        return value
    | _, _ => choice depth idle first second

end

/-- The value of an expression, and the state of the shell after it. -/
def evaluate (shell : State) (expression : Chars) : Except Fault (Int64 × State) := do
  let whole : Working Int64 := do
    let value ← assignment (2 * expression.length + 10) false (← take)
    if (← get).next ≠ .ending then throw (.invalid "expecting EOF")
    return value
  let (value, progress) ← whole.run { rest := expression, shell }
  return (value, progress.shell)

end Dialogue.Shell.Arithmetic
