import Dialogue.Shell.Builtin.Letters

/-!
What a shell may use, and what it has used.
-/

namespace Dialogue.Shell

open Activity

/-- What may be limited. -/
structure Limit where
  letter : Char
  name : String
  /-- How much may be used unless something else is said. -/
  amount : Option Nat := none

/-- All that may be limited. -/
def limits : List Limit :=
  [{ letter := 't', name := "time(seconds)" }, { letter := 'f', name := "file(blocks)" },
    { letter := 'd', name := "data(kbytes)" },
    { letter := 's', name := "stack(kbytes)", amount := some 8192 },
    { letter := 'c', name := "coredump(blocks)", amount := some 0 },
    { letter := 'm', name := "memory(kbytes)" },
    { letter := 'l', name := "locked memory(kbytes)", amount := some 8192 },
    { letter := 'p', name := "process", amount := some 128620 },
    { letter := 'n', name := "nofiles", amount := some 20000 },
    { letter := 'v', name := "vmemory(kbytes)" }, { letter := 'w', name := "locks" },
    { letter := 'r', name := "rtprio", amount := some 0 }]

/-- How much may be used of something, as it is shown. -/
def amountText (s : State) (limit : Limit) : Chars :=
  match (s.limits.lookup limit.letter).getD limit.amount with
  | some n => Text.decimal n
  | none => Text.spell "unlimited"

/-- Shows limits or sets one. -/
def runLimit (arguments : List Chars) : Activity Nat := do
  let known := String.ofList (limits.map (·.letter))
  let (letters, arguments) ← readLetters ("HSa" ++ known) "" arguments
  let letter :=
    ((letters.map (·.letter)).filter known.toList.contains).getLastD 'f'
  let s ← state
  match arguments with
  | [] =>
    if isGiven 'a' letters then
      printOut (limits.flatMap fun limit =>
        let name := limit.name.toList
        name ++ List.replicate (21 - name.length) ' ' ++ amountText s limit ++ ['\n'])
    else
      let shown := (limits.filter (·.letter == letter)).map (amountText s)
      printOut (shown.headD [] ++ ['\n'])
  | [amount] => do
    if isGiven 'a' letters then failText "too many arguments"
    let unlimited : Bool := amount = Text.spell "unlimited"
    if !unlimited && !amount.all Char.isDigit then failText "bad number"
    let amount := if unlimited then none else some (Number.ofDigits 10 amount)
    modify fun s => { s with limits := (letter, amount) :: s.limits }
    return 0
  | _ => failText "too many arguments"

/-- Tells how much time was used: no time that would count. -/
def runTimes : Activity Nat := do
  let line := "0m0.000000s 0m0.000000s\n"
  printOut (Text.spell (line ++ line))

end Dialogue.Shell
