import Dialogue.Shell.Builtin.Letters

/-!
Commands about variables and options: what they are set to, and what happens to them.
-/

namespace Dialogue.Shell

open Activity

/-- An argument taken apart into a name and a value, if it has one. -/
def splitValue (argument : Chars) : Chars × Option Chars :=
  let name := argument.takeWhile (· ≠ '=')
  match argument.dropWhile (· ≠ '=') with
  | _ :: value => (name, some value)
  | [] => (name, none)

/-- The lines that list variables, each behind a word. -/
def listing (word : Chars) (chosen : Variable → Bool) (s : State) : Chars :=
  let start := if word = [] then [] else word ++ [' ']
  let vars := (s.vars.filter (chosen ·.2)).mergeSort fun a b => comesFirst a.1 b.1
  vars.flatMap fun (name, v) =>
    let value :=
      match v.value with
      | some value => '=' :: singleQuoted value
      | none => []
    start ++ name ++ value ++ ['\n']
where
  /-- The order of names, octet by octet. -/
  comesFirst : Chars → Chars → Bool
    | [], _ => true
    | _ :: _, [] => false
    | a :: rest, b :: others => a < b || (a == b && comesFirst rest others)

/-- Marks variables, and gives them values: to be exported, or to keep what they are. -/
def markVariables (isReadonly : Bool) (arguments : List Chars) : Activity Nat := do
  let (letters, names) ← readLetters "p" "" arguments
  let mark (v : Variable) : Variable :=
    if isReadonly then { v with isReadonly := true } else { v with isExported := true }
  if isGiven 'p' letters || names = [] then
    let word := if isReadonly then "readonly" else "export"
    let chosen (v : Variable) : Bool := if isReadonly then v.isReadonly else v.isExported
    printOut (listing (Text.spell word) chosen (← state))
  else
    names.forM fun argument => do
      let (name, value) := splitValue argument
      match (← state).known? name, value with
      | some v, none => modify fun s => s.putVariable name (some (mark v))
      | _, value => do
        checkName argument
        changeVariable name value fun s =>
          let s :=
            match value with
            | some value => s.set name value
            | none => s
          s.putVariable name (some (mark ((s.known? name).getD {})))
    return 0

/-- Keeps what a name is, to be put back when the function ends. -/
def keepLocal (before : Before) : Activity Unit :=
  modify fun s =>
    match s.locals with
    | frame :: outer => { s with locals := (before :: frame) :: outer }
    | [] => s

/-- Makes a variable local to the function that runs, or to a command. -/
def makeLocal (exporting : Bool) (name : Chars) (value : Option Chars) : Activity Unit := do
  let before := (← state).known? name
  let change (s : State) : State :=
    let s :=
      match value with
      | some value => s.set name value
      | none => s
    let v := (s.known? name).getD {}
    let isExported := v.isExported || (exporting && (value.isSome || before.isNone))
    s.putVariable name (some { v with isExported, stays := true })
  match before, value with
  | some v, none => modify fun s => s.putVariable name (some { v with stays := true })
  | none, none => do
    checkName name
    modify change
  | _, some _ => changeVariable name value change
  keepLocal (.named name before)

/-- Makes names local to the function that runs. -/
def runLocal (arguments : List Chars) : Activity Nat := do
  if (← state).locals.isEmpty then failText "not in a function"
  arguments.forM fun argument => do
    if argument = ['-'] then keepLocal (.options (← state).options)
    else
      let (name, value) := splitValue argument
      makeLocal false name value
  return 0

/-- Puts back what a name was. -/
def restoreLocal (before : Before) : Activity Unit :=
  modify fun s =>
    match before with
    | .options options => { s with options }
    | .named name (some v) => (s.putVariable name (some v)).noteValue name v.value
    | .named name none =>
      (s.putVariable name none).noteValue name none

/-- Puts back what names were, for all functions but so many outer ones. -/
def unwindLocals (count : Nat) : Activity Unit := do
  let locals := (← state).locals
  let inner := locals.take (locals.length - count)
  inner.forM fun frame => frame.forM restoreLocal
  modify fun s => { s with locals := s.locals.drop inner.length }

/-- Takes their values, or functions, from names. -/
def runUnset (arguments : List Chars) : Activity Nat := do
  let (letters, names) ← readLetters "vf" "" arguments
  let isFunction := letters.getLast?.any (·.letter == 'f')
  names.forM fun name => do
    if isFunction then modify fun s => { s with functions := s.functions.filter (·.1 != name) }
    else
      checkName name
      changeVariable name (some []) fun s => s.unset name
  return 0

/-- Sets an option by its name. -/
def setNamedOption (name : Chars) (on : Bool) : Activity Unit :=
  match ShellOption.ofName? name with
  | some option => modify fun s => s.withOption option on
  | none => fail (Text.spell "Illegal option -o " ++ name)

/-- The lines that list the options: for readers, or as commands that set them. -/
def optionListing (s : State) (asCommands : Bool) : Chars :=
  let line (option : ShellOption) : String :=
    let (sign, setting) := if s.has option then ("-o", "on") else ("+o", "off")
    if asCommands then s!"set {sign} {option.name}\n"
    else
      let gap := String.ofList (List.replicate (16 - option.name.length) ' ')
      s!"{option.name}{gap}{setting}\n"
  let lines := ShellOption.all.map fun option => Text.spell (line option)
  (if asCommands then [] else Text.spell "Current option settings\n") ++ lines.flatten

/-- Options as they were given: what is left of the arguments, and the script in one of them. -/
structure Given where
  rest : List Chars
  /-- The first argument left is a script. -/
  hasScript : Bool := false
  /-- Two hyphens, or options without arguments, ended them: there are no other arguments. -/
  endsArguments : Bool := false

/-- Sets the options of a word of letters. The flag says that they are those of a whole shell. -/
def setLetters (whole on : Bool) : Chars → Given → Activity Given
  | [], given => pure given
  | c :: letters, given => do
    if whole && c = 'c' then setLetters whole on letters { given with hasScript := true }
    else if whole && c = 'l' then setLetters whole on letters given
    else if c = 'o' then
      match given.rest with
      | [] => do
        let _ ← printOut (optionListing (← state) (!on))
        setLetters whole on letters given
      | name :: rest => do
        setNamedOption name on
        setLetters whole on letters { given with rest }
    else
      match ShellOption.ofLetter? c with
      | some option => do
        modify fun s => s.withOption option on
        setLetters whole on letters given
      | none => fail (Text.spell "Illegal option -" ++ [c])

/-- Sets the options at the start of arguments. The first argument bounds them. -/
def setOptions (whole : Bool) : Nat → Given → Activity Given
  | 0, given => pure given
  | bound + 1, given =>
    match given.rest with
    | ['-'] :: rest => do
      if !whole then
        modify fun s => (s.withOption .xtrace false).withOption .verbose false
      return { given with rest }
    | ['-', '-'] :: rest => pure { given with rest, endsArguments := true }
    | ('-' :: letters) :: rest => do
      setOptions whole bound (← setLetters whole true letters { given with rest })
    | ('+' :: letters) :: rest => do
      setOptions whole bound (← setLetters whole false letters { given with rest })
    | _ => pure given

/-- Says that there is no terminal from which jobs could be controlled. -/
def warnOfTerminal : Activity Unit := do
  warn (Text.spell "can't access tty; job control turned off")
  modify fun s => s.withOption .monitor false

/-- Sets options and arguments, or lists the variables. -/
def runSet (arguments : List Chars) : Activity Nat := do
  if arguments.isEmpty then
    printOut (listing [] (fun v => v.value.isSome) (← state))
  else
    let given ← setOptions false (arguments.length + 1) { rest := arguments }
    let s ← state
    if s.has .monitor && !s.isCopy then warnOfTerminal
    if !given.rest.isEmpty || given.endsArguments then
      modify fun s => s.withArguments given.rest
    return 0

/-- Drops arguments. -/
def runShift (arguments : List Chars) : Activity Nat := do
  let count ←
    match arguments with
    | [] => pure 1
    | count :: _ => number count
  let s ← state
  if s.arguments.list.length < count then failText "can't shift that many"
  else
    modify fun s => s.withArguments (s.arguments.list.drop count)
    return 0

/-- What looking for the next option in arguments comes to. -/
structure NextOption where
  /-- The sign that the variable is set to. -/
  sign : Char
  value : Option Chars := none
  index : Nat
  /-- How far one has got in the word before the index, if there is more in it. -/
  offset : Option Nat := none
  isEnd : Bool := false
  complaint : String := ""

/-- The rule of an option in a list of known ones, if it is known: whether it takes a value. -/
def optionRule? (c : Char) : Chars → Option Bool
  | [] => none
  | k :: ':' :: rest => if k = c then some true else optionRule? c rest
  | k :: rest => if k = c then some false else optionRule? c rest

/-- Looks for the next option. The words are those of the arguments, of which the one of the index,
counted from 1, is the next. -/
def nextOption (known : Chars) (words : List Chars) (index : Nat) (offset : Option Nat) :
    NextOption :=
  let quiet := known.head? = some ':'
  let inWord : Option Chars :=
    match offset with
    | some offset =>
      if index ≤ 1 then none
      else
        match words[index - 2]? with
        | some word => if offset < word.length then some (word.drop offset) else none
        | none => none
    | none => none
  -- The letters to look at, and the index of the word behind them.
  let found : Except Nat (Chars × Nat) :=
    match inWord with
    | some letters => .ok (letters, index)
    | none =>
      match words[index - 1]? with
      | some ['-', '-'] => .error (index + 1)
      | some ('-' :: letter :: letters) => .ok (letter :: letters, index + 1)
      | _ => .error index
  match found with
  | .error index => { sign := '?', index, isEnd := true }
  | .ok ([], index) => { sign := '?', index, isEnd := true }
  | .ok (c :: letters, index) =>
    let offset : Option Nat :=
      (words[index - 2]?).map fun word => word.length - letters.length
    match optionRule? c known with
    | none =>
      { sign := '?'
        value := if quiet then some [c] else none
        index
        offset
        complaint := if quiet then "" else s!"Illegal option -{c}\n" }
    | some false => { sign := c, value := some [], index, offset }
    | some true =>
      match letters, words[index - 1]? with
      | [], none =>
        { sign := if quiet then ':' else '?'
          value := if quiet then some [c] else none
          index
          complaint := if quiet then "" else s!"No arg for -{c} option\n" }
      | [], some value => { sign := c, value := some value, index := index + 1 }
      | value, _ => { sign := c, value := some value, index }

/-- Finds the next option in the arguments. -/
def runGetopts (arguments : List Chars) : Activity Nat := do
  match arguments with
  | known :: name :: given => do
    let s ← state
    let words := if given = [] then s.arguments.list else given
    let inside : Bool := 0 ≤ s.arguments.optionIndex
      && s.arguments.optionIndex ≤ (words.length + 1 : Nat)
    let (index, offset) :=
      if inside then (s.arguments.optionIndex.toNat, s.arguments.optionOffset) else (1, none)
    let found := nextOption known words (max index 1) offset
    say 2 (Text.spell found.complaint)
    match found.value, found.isEnd with
    | some value, _ => assign "OPTARG".toList value
    | none, false => modify fun s => s.unset "OPTARG".toList
    | none, true => pure ()
    assign "OPTIND".toList (Text.decimal found.index)
    modify fun s =>
      { s with
        arguments :=
          { s.arguments with optionIndex := found.index, optionOffset := found.offset } }
    assignChecked name [found.sign]
    return if found.isEnd then 1 else 0
  | _ => failText "Usage: getopts optstring var [arg...]"

end Dialogue.Shell
