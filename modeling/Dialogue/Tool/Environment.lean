import Dialogue.Machine.SearchPath
import Dialogue.Tool.Options
import Dialogue.Tool.Quoting
import Dialogue.Tool.Stream

/-!
Running a program with other variables: `env`. An argument behind `-S` stands for several, so that
one argument can be enough.
-/

namespace Dialogue.Tool

/-- Why an argument that stands for several is refused. -/
inductive SplitFault
  | openQuote
  | trailingBackslash
  | unknownEscape (c : Char)
  /-- The end of the text is marked between double quotes. -/
  | quotedEnd
  /-- A dollar sign is not followed by a name in braces. -/
  | badVariable (text : Chars)
deriving Repr, DecidableEq

/-- What is said of an argument that is refused. -/
def SplitFault.text : SplitFault → Chars
  | .openQuote => Text.spell "no terminating quote in -S string"
  | .trailingBackslash => Text.spell "invalid backslash at end of string in -S"
  | .unknownEscape c => Text.spell "invalid sequence '\\" ++ c :: Text.spell "' in -S"
  | .quotedEnd => Text.spell "'\\c' must not appear in double-quoted -S string"
  | .badVariable text =>
    Text.spell "only $\x7bVARNAME\x7d expansion is supported, error at: " ++ text

/-- The name in braces behind a dollar sign, and the rest. -/
def bracedName? (text : Chars) : Option (Chars × Chars) :=
  let isNameChar (c : Char) : Bool := c.isAlphanum || c = '_'
  match text with
  | '\x7b' :: text =>
    let name := text.takeWhile isNameChar
    match text.drop name.length, name.head? with
    | '\x7d' :: rest, some c => if c.isDigit then none else some (name, rest)
    | _, _ => none
  | _ => none

/-- Takes a text apart into arguments. It is given the quote that is open, and what there is of the
present argument. The second argument bounds the characters. -/
def splitFrom (vars : Variables) :
    Nat → Option Char → Option Chars → Chars → Except SplitFault (List Chars)
  | 0, _, current, _ => .ok current.toList
  | bound + 1, quote, current, text =>
    let goOn (quote : Option Char) (current : Option Chars) (rest : Chars) :=
      splitFrom vars bound quote current rest
    let add (piece rest : Chars) := goOn quote (some (current.getD [] ++ piece)) rest
    let separate (rest : Chars) := (goOn none none rest).map (current.toList ++ ·)
    let isEscaping (rest : Chars) : Bool :=
      quote ≠ some '\'' || rest.head? = some '\\' || rest.head? = some '\''
    match text with
    | [] => if quote.isSome then .error .openQuote else .ok current.toList
    | c :: rest =>
      if (c = '\'' || c = '"') && (quote.isNone || quote = some c) then
        goOn (if quote.isNone then some c else none) (some (current.getD [])) rest
      else if quote.isNone && " \t\n\x0b\x0c\r".toList.contains c then separate rest
      else if c = '#' && current.isNone then .ok []
      else if c = '\\' && isEscaping rest then
        match rest with
        | [] => .error .trailingBackslash
        | d :: rest =>
          match "fnrtv".toList.zip "\x0c\n\r\t\x0b".toList |>.lookup d with
          | some meant => add [meant] rest
          | none =>
            if "\"#$'\\".toList.contains d then add [d] rest
            else if d = '_' then if quote.isSome then add [' '] rest else separate rest
            else if d ≠ 'c' then .error (.unknownEscape d)
            else if quote.isSome then .error .quotedEnd
            else .ok current.toList
      else if c = '$' && quote ≠ some '\'' then
        match bracedName? rest with
        | none => .error (.badVariable text)
        | some (name, rest) =>
          match vars.lookup (Text.toOctets name) with
          | some value => add (Text.ofOctets value) rest
          | none => goOn quote current rest
      else add [c] rest

/-- The arguments that a text stands for. -/
def splitArguments (vars : Variables) (text : Chars) : Except SplitFault (List Chars) :=
  splitFrom vars (text.length + 1) none none text

/-- The letters before the one in an argument that says that a text stands for several arguments,
and what follows it. -/
def splitOption? : Chars → Option (Chars × Chars)
  | '-' :: text =>
    let letters := text.takeWhile fun c => c = 'i' || c = '0'
    match text.drop letters.length with
    | 'S' :: rest => some (letters, rest)
    | _ => none
  | _ => none

/-- The options of `env`. -/
def environmentRules : OptionRules where
  rules :=
    [{ key := 'i' }, { key := 'u', value := .required }, { key := '0' },
      { key := 'C', value := .required }]
  names := [("ignore-environment", 'i'), ("unset", 'u'), ("null", '0'), ("chdir", 'C')]
  isStrict := true
  isOperand argument := (splitOption? argument).isSome

/-- Reads the arguments of `env`. Those that stand for several are taken apart; the first argument
bounds them. -/
def readEnvironment (vars : Variables) : Nat → List Chars → Except SplitFault OptionsRead
  | 0, arguments => .ok (environmentRules.read arguments)
  | bound + 1, arguments =>
    let found := environmentRules.read arguments
    match found.operands with
    | [] => .ok found
    | first :: rest =>
      match splitOption? first, rest with
      | none, _ => .ok found
      | some (_, []), [] => .ok { found with operands := [], fault := some (.noValue 'S') }
      | some (letters, text), rest => do
        let (text, rest) := if text.isEmpty then (rest.headD [], rest.drop 1) else (text, rest)
        let inner ← readEnvironment vars bound ((← splitArguments vars text) ++ rest)
        let options := found.options ++ letters.map (·, none) ++ inner.options
        return { inner with options }

/-- What is said if an argument may have been meant to stand for several. -/
def splitAdvice (name : Chars) (next : Unit → Program) : Program :=
  complain name (Text.spell "use -[v]S to pass options in shebang lines") next

/-- Runs a program, or prints the variables if there is none. -/
def runWith (name : Chars) (found : OptionsRead) (vars : Variables) : List Chars → Program
  | [] =>
    let ending : UInt8 := if found.has '0' then 0 else 0x0a
    let lines := vars.flatMap fun (key, value) => key ++ 0x3d :: value ++ [ending]
    print name (Text.ofOctets lines) fun _ => .exit 0
  | program :: rest =>
    let failed (fault : Fault) : Program :=
      complain name (quoted program ++ Text.spell s!": {fault.systemText}") fun _ =>
        if fault ≠ .noEntry then .exit 126
        else if program.contains ' ' then splitAdvice name fun _ => .exit 127
        else .exit 127
    Machine.executeFirst ((program :: rest).map Text.toOctets) vars failed .noEntry
      (Machine.candidates (Machine.searchPathOf vars) (Text.toOctets program))

/-- Runs a program with the variables that the arguments ask for. -/
def runFound (name : Chars) (vars : Variables) (found : OptionsRead) : Program :=
  let isClear := found.has 'i' || found.operands.head? == some ['-']
  let operands := if found.operands.head? = some ['-'] then found.operands.drop 1
    else found.operands
  let dropped := found.options.filterMap fun (key, value) => if key = 'u' then value else none
  let vars := if isClear then [] else
    vars.filter fun v => !dropped.contains (Text.ofOctets v.1)
  let isSetting (argument : Chars) : Bool := argument.contains '='
  let vars := (operands.takeWhile isSetting).foldl
    (fun (vars : Variables) argument =>
      Variables.put (Text.toOctets (argument.takeWhile (· ≠ '=')))
        (Text.toOctets ((argument.dropWhile (· ≠ '=')).drop 1)) vars)
    vars
  let run : Program := runWith name found vars (operands.dropWhile isSetting)
  match dropped.find? (fun text => text.isEmpty || text.contains '='), found.value? 'C' with
  | some text, _ =>
    complain name (Text.spell "cannot unset " ++ quoted text ++ Text.spell ": Invalid argument")
      fun _ => .exit 125
  | none, none => run
  | none, some directory =>
    .changeDirectory (Text.toOctets directory) fun
      | .ok _ => run
      | .error fault =>
        complain name (Text.spell "cannot change directory to " ++ quoted directory
          ++ Text.spell s!": {fault.systemText}") fun _ => .exit 125

/-- How often arguments that stand for several may stand in one another. -/
def mostSplits : Nat := 100

/-- Runs another program, with some variables set before. -/
def env (name : Chars) (vars : Variables) (arguments : List Chars) : Program :=
  match readEnvironment vars mostSplits arguments with
  | .error fault => complain name fault.text fun _ => .exit 125
  | .ok found =>
    match found.fault with
    | none => runFound name vars found
    | some fault =>
      complain name fault.text fun _ =>
        let help : Program :=
          say 2 (Text.spell "Try '" ++ name ++ Text.spell " --help' for more information.\n")
            fun _ => .exit 125
        match fault with
        | .unknownLetter ' ' => splitAdvice name fun _ => help
        | _ => help

end Dialogue.Tool
