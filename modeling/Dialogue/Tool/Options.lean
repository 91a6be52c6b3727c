import Dialogue.Text.Latin

/-!
Options of programs: letters behind one hyphen, and names behind two, which may be cut short as long
as it is clear which one is meant. Two hyphens alone end them.
-/

namespace Dialogue.Tool

/-- Whether an option takes a value. -/
inductive ValueRule
  | none
  | required
  /-- If it takes one, the value follows in the same argument. -/
  | optional
deriving Repr, DecidableEq

/-- An option of a program. -/
structure OptionRule where
  /-- What the program calls it. -/
  key : Char
  value : ValueRule := .none
  /-- Whether the key is also the letter of it. -/
  isLetter : Bool := true
deriving Repr, DecidableEq

/-- The options of a program. -/
structure OptionRules where
  rules : List OptionRule
  /-- The names of options, with their keys. -/
  names : List (String × Char) := []
  /-- Options count only before the first other argument. -/
  isStrict : Bool := false
  /-- Arguments that are no options although they start with a hyphen, and that end them. -/
  isOperand : Chars → Bool := fun _ => false

/-- Why options are refused. -/
inductive OptionFault
  | unknownLetter (letter : Char)
  | unknownName (text : Chars)
  | ambiguous (text : Chars) (names : List String)
  | noValue (letter : Char)
  | noNamedValue (name : String)
  | unwanted (name : String)
deriving Repr

/-- What is said of options that are refused. -/
def OptionFault.text : OptionFault → Chars
  | .unknownLetter letter => Text.spell "invalid option -- '" ++ [letter, '\'']
  | .unknownName text => Text.spell "unrecognized option '--" ++ text ++ ['\'']
  | .ambiguous text names =>
    Text.spell "option '--" ++ text ++ Text.spell "' is ambiguous; possibilities:"
      ++ names.flatMap fun name => Text.spell s!" '--{name}'"
  | .noValue letter => Text.spell "option requires an argument -- '" ++ [letter, '\'']
  | .noNamedValue name => Text.spell s!"option '--{name}' requires an argument"
  | .unwanted name => Text.spell s!"option '--{name}' doesn't allow an argument"

/-- Arguments taken apart: the options with their values, the other arguments, and why the options
were not read to the end. -/
structure OptionsRead where
  options : List (Char × Option Chars) := []
  operands : List Chars := []
  fault : Option OptionFault := none

namespace OptionRules

/-- The rule of a key. -/
def rule? (rules : OptionRules) (key : Char) : Option OptionRule :=
  rules.rules.find? (·.key == key)

/-- The option that a name stands for. -/
def named? (rules : OptionRules) (text name : Chars) : Except OptionFault (String × OptionRule) :=
  let found (entry : String × Char) : Except OptionFault (String × OptionRule) :=
    match rules.rule? entry.2 with
    | some rule => .ok (entry.1, rule)
    | none => .error (.unknownName text)
  match rules.names.find? (·.1.toList == name) with
  | some entry => found entry
  | none =>
    match rules.names.filter fun entry => name.isPrefixOf entry.1.toList with
    | [] => .error (.unknownName text)
    | first :: others =>
      -- Several names are no matter if they stand for the same option.
      let others := others.filter (·.2 != first.2)
      if others.isEmpty then found first
      else .error (.ambiguous text ((first :: others).map (·.1)))

/-- Reads the letters of one argument. What is left is a letter that needs the next argument. -/
def letters (rules : OptionRules) :
    Chars → List (Char × Option Chars) × Option (Except OptionFault Char)
  | [] => ([], none)
  | c :: rest =>
    match (rules.rule? c).filter (·.isLetter) with
    | none => ([], some (.error (.unknownLetter c)))
    | some rule =>
      match rule.value, rest with
      | .none, rest =>
        let (options, ending) := letters rules rest
        ((c, none) :: options, ending)
      | .optional, rest => ([(c, if rest = [] then none else some rest)], none)
      | .required, [] => ([], some (.ok c))
      | .required, rest => ([(c, some rest)], none)

/-- Reads arguments. -/
def read (rules : OptionRules) : List Chars → OptionsRead
  | [] => {}
  | argument :: rest =>
    let after (options : List (Char × Option Chars)) (found : OptionsRead) : OptionsRead :=
      { found with options := options ++ found.options }
    match argument with
    | ['-', '-'] => { operands := rest }
    | '-' :: '-' :: text =>
      let name := text.takeWhile (· ≠ '=')
      let value? := (text.dropWhile (· ≠ '=')).tail?
      match rules.named? text name with
      | .error fault => { fault := some fault }
      | .ok (name, rule) =>
        match rule.value, value?, rest with
        | .none, some _, _ => { fault := some (.unwanted name) }
        | .required, none, [] => { fault := some (.noNamedValue name) }
        | .required, none, value :: rest => after [(rule.key, some value)] (read rules rest)
        | _, value?, rest => after [(rule.key, value?)] (read rules rest)
    | '-' :: letter :: more =>
      if rules.isOperand argument then { operands := argument :: rest }
      else
        match rules.letters (letter :: more), rest with
        | (options, none), rest => after options (read rules rest)
        | (options, some (.error fault)), _ => { options, fault := some fault }
        | (options, some (.ok letter)), [] => { options, fault := some (.noValue letter) }
        | (options, some (.ok letter)), value :: rest =>
          after (options ++ [(letter, some value)]) (read rules rest)
    | operand =>
      if rules.isStrict then { operands := operand :: rest }
      else
        let found := read rules rest
        { found with operands := operand :: found.operands }

end OptionRules

namespace OptionsRead

/-- Whether an option was given. -/
def has (found : OptionsRead) (key : Char) : Bool := found.options.any (·.1 == key)

/-- The last value of an option. -/
def value? (found : OptionsRead) (key : Char) : Option Chars :=
  ((found.options.filter (·.1 == key)).getLast?).bind (·.2)

end OptionsRead

end Dialogue.Tool
