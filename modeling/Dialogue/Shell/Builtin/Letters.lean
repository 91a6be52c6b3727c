import Dialogue.Shell.Activity

/-!
Letters before the arguments of builtin commands, and what such commands print.
-/

namespace Dialogue.Shell

open Activity

/-- A letter that a command was given, with its value if it takes one. -/
structure Letter where
  letter : Char
  value : Chars := []
deriving Repr, DecidableEq

/-- Why the letters of a command are refused. -/
inductive LetterFault
  | unknown (letter : Char)
  | noValue (letter : Char)
deriving Repr, DecidableEq

/-- Letters without values at the start of a text. What ends them is the end of the text, a letter
that takes a value with the rest of the text, or one that is not known. -/
def takeLetters (known : String) (valued : String) :
    Chars → List Letter × Option (Except LetterFault (Char × Chars))
  | [] => ([], none)
  | c :: rest =>
    if valued.toList.contains c then ([], some (.ok (c, rest)))
    else if known.toList.contains c then
      let (letters, ending) := takeLetters known valued rest
      ({ letter := c } :: letters, ending)
    else ([], some (.error (.unknown c)))

/-- The letters before the arguments of a command, and the arguments. Letters stand behind a hyphen;
two hyphens end them. -/
def lettersOf (known valued : String) : List Chars → Except LetterFault (List Letter × List Chars)
  | [] => .ok ([], [])
  | ['-', '-'] :: rest => .ok ([], rest)
  | ('-' :: c :: more) :: rest =>
    match takeLetters known valued (c :: more), rest with
    | (_, some (.error fault)), _ => .error fault
    | (letters, none), rest =>
      (lettersOf known valued rest).map fun (others, rest) => (letters ++ others, rest)
    | (_, some (.ok (letter, []))), [] => .error (.noValue letter)
    | (letters, some (.ok (letter, []))), value :: rest =>
      (lettersOf known valued rest).map fun (others, rest) =>
        (letters ++ { letter, value } :: others, rest)
    | (letters, some (.ok (letter, value))), rest =>
      (lettersOf known valued rest).map fun (others, rest) =>
        (letters ++ { letter, value } :: others, rest)
  | rest => .ok ([], rest)

/-- The letters before the arguments of a command, and the arguments; a fault is complained
about. -/
def readLetters (known valued : String) (arguments : List Chars) :
    Activity (List Letter × List Chars) :=
  match lettersOf known valued arguments with
  | .ok found => pure found
  | .error (.unknown letter) => fail (Text.spell "Illegal option -" ++ [letter])
  | .error (.noValue letter) =>
    fail (Text.spell "No arg for -" ++ [letter] ++ Text.spell " option")

/-- The arguments of a command that knows no letters. -/
def withoutLetters (arguments : List Chars) : Activity (List Chars) := do
  return (← readLetters "" "" arguments).2

/-- Whether a letter is among those given. -/
def isGiven (letter : Char) (letters : List Letter) : Bool := letters.any (·.letter == letter)

/-- Prints what a command has to say. That it cannot be written is complained about. -/
def printOut (text : Chars) : Activity Nat := do
  if text = [] then return 0
  match ← ask (Program.write 1 (Text.toOctets text)) with
  | .ok _ => return 0
  | .error _ => do
    warn ((← state).command.getD [] ++ Text.spell ": I/O error")
    return 1

/-- A text between quotes, so that it can be read as one word: single quotes, and double quotes
around the single quotes in it. -/
def singleQuoted (text : Chars) : Chars :=
  let rec quote : Nat → Chars → Chars
    | 0, _ => []
    | bound + 1, text =>
      let run := text.takeWhile (· ≠ '\'')
      let rest := text.dropWhile (· ≠ '\'')
      let quotes := rest.takeWhile (· = '\'')
      let after := rest.dropWhile (· = '\'')
      let shown := '\'' :: run ++ ['\'']
      if quotes = [] then shown
      else
        let shown := shown ++ '"' :: quotes ++ ['"']
        if after = [] then shown else shown ++ quote bound after
  quote (text.length + 1) text

end Dialogue.Shell
