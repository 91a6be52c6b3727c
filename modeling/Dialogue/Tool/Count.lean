import Dialogue.Number.Layout
import Dialogue.Tool.Options
import Dialogue.Tool.Quoting
import Dialogue.Tool.Stream

/-!
Counting: the program `seq`, which writes the numbers from one to another, in steps and with what
shall stand between them. It counts with whole numbers of any size as long as it can, and else with
floating numbers.
-/

namespace Dialogue.Tool

open Number (Floating FloatFormat Layout)

/-- The format that is counted in. -/
def countFormat : FloatFormat := .extended

/-- A number that was given, with how it was written. -/
structure CountBound where
  value : Floating
  /-- How many characters it needs. -/
  width : Int := 0
  /-- How many decimal places it has, if that is known. -/
  places : Option Int := some 0

/-- The number one. -/
def CountBound.one : CountBound := { value := .ofInt countFormat 1, width := 1 }

/-- Whether a number is zero. -/
def isZero : Floating → Bool
  | .finite _ 0 _ => true
  | _ => false

/-- Whether a number is finite. -/
def isFinite : Floating → Bool
  | .finite _ _ _ => true
  | _ => false

/-- What follows the first of some characters in a text, if one of them is there. -/
def behind? (isMark : Char → Bool) (text : Chars) : Option Chars :=
  (text.dropWhile fun c => !isMark c).tail?

/-- The width and the decimal places of a number by the way it is written in decimal digits. -/
def writtenSize (text : Chars) : Int × Option Int :=
  let fraction? := behind? (· == '.') text
  let fraction := (fraction?.getD []).takeWhile fun c => c != 'e' && c != 'E'
  let before := text.takeWhile (· ≠ '.')
  let length : Int := text.length
  let pointed : Int :=
    match fraction? with
    | none => 0
    | some _ =>
      if fraction = [] then -1 else if before.getLast?.any Char.isDigit then 0 else 1
  let width := length + pointed
  let places : Option Int :=
    match fraction? with
    | none => if text.contains 'p' then none else some 0
    | some _ => some fraction.length
  let isMark (c : Char) : Bool := c == 'e' || c == 'E'
  -- The first small letter counts, or else the first great one.
  let exponent? :=
    (behind? (· == 'e') text).map (text.takeWhile (· ≠ 'e'), ·)
      <|> (behind? isMark text).map (text.takeWhile (· ≠ 'E'), ·)
  match exponent? with
  | none => (width, places)
  | some (mantissa, digits) =>
    let exponent := ((Number.whole64? (some 10) digits).map (·.value)).getD 0
    let width := width - (text.length - mantissa.length : Nat)
    if exponent < 0 then
      let endsInPoint := mantissa.getLast? == some '.'
      let width := if fraction?.isNone || endsInPoint then width + 1 else width
      (width - exponent, places.map (· - exponent))
    else
      let places := places.map fun places => places - min places exponent
      let width :=
        if fraction?.isSome && places == some 0 && fraction != [] then width - 1 else width
      (width + exponent - min (fraction.length : Int) exponent, places)

/-- A number that an argument gives. -/
def CountBound.ofText? (argument : Chars) : Option CountBound :=
  match Number.float? countFormat argument with
  | some { value, rest := [], isHeld } =>
    -- A number too small to be told from zero is zero.
    if isHeld && !isZero value then none
    else
      let text := argument.dropWhile fun c => Number.isNumberBlank c || c == '+'
      let isDecimal := !text.any (fun c => c == 'x' || c == 'X') && isFinite value
      if isDecimal then
        let (width, places) := writtenSize text
        some { value, width, places }
      else
        some { value, places := if text.any (fun c => c == '.' || c == 'p') then none else some 0 }
  | _ => none

/-- How numbers are written: in a format, with a text before and behind. -/
structure CountLayout where
  before : Chars := []
  behind : Chars := []
  layout : Layout := {}
  conversion : Char := 'g'

/-- A number as it is written. -/
def CountLayout.show (format : CountLayout) (value : Floating) : Chars :=
  format.layout.floating countFormat format.conversion value

/-- The text of a format up to a conversion, in which two percent signs stand for one, and what
follows. -/
def plainPart : Chars → Chars × Chars
  | '%' :: '%' :: rest =>
    let (text, rest) := plainPart rest
    ('%' :: text, rest)
  | '%' :: rest => ([], '%' :: rest)
  | c :: rest =>
    let (text, rest) := plainPart rest
    (c :: text, rest)
  | [] => ([], [])

/-- A format that was given, or why it is none. -/
def CountLayout.ofText (text : Chars) : Except Chars CountLayout :=
  let refuse (complaint : Chars) : Except Chars CountLayout :=
    .error (Text.spell "format " ++ quoted text ++ complaint)
  let (before, rest) := plainPart text
  match rest with
  | [] => refuse (Text.spell " has no % directive")
  | _ :: rest =>
    let isFlag (c : Char) : Bool := "-+#0 '".toList.contains c
    let flags := rest.takeWhile isFlag
    let rest := rest.dropWhile isFlag
    let width := Number.ofDigits 10 (rest.takeWhile Char.isDigit)
    let rest := rest.dropWhile Char.isDigit
    let (precision, rest) :=
      match rest with
      | '.' :: rest =>
        (some (Number.ofDigits 10 (rest.takeWhile Char.isDigit)), rest.dropWhile Char.isDigit)
      | rest => (none, rest)
    let rest := if rest.head? = some 'L' then rest.drop 1 else rest
    match rest with
    | [] => refuse (Text.spell " ends in %")
    | conversion :: rest =>
      if !"efgaEFGA".toList.contains conversion then
        refuse (Text.spell " has unknown %" ++ conversion :: Text.spell " directive")
      else
        match plainPart rest with
        | (behind, []) =>
          .ok
            { before, behind, conversion
              layout :=
                { left := flags.contains '-', zeros := flags.contains '0'
                  plus := flags.contains '+', space := flags.contains ' '
                  alternate := flags.contains '#', width, precision } }
        | _ => refuse (Text.spell " has too many % directives")

/-- The format for numbers by the way in which they were given. -/
def CountLayout.fitting (evenWidth : Bool) (first step last : CountBound) : CountLayout :=
  match first.places, step.places, last.places with
  | some firstPlaces, some stepPlaces, some lastPlaces =>
    let places := max firstPlaces stepPlaces
    let precision := some places.toNat
    if evenWidth then
      -- A point is not shown where there are no places.
      let firstWidth := first.width + (places - firstPlaces)
        + (if firstPlaces = 0 ∧ places ≠ 0 then 1 else 0)
      let lastWidth := last.width + (places - lastPlaces)
        + (if lastPlaces ≠ 0 ∧ places = 0 then -1 else if lastPlaces = 0 ∧ places ≠ 0 then 1
          else 0)
      let width := (max firstWidth lastWidth).toNat
      { layout := { zeros := true, width, precision }, conversion := 'f' }
    else { layout := { precision }, conversion := 'f' }
  | _, _, _ => {}

/-- How many numbers are written in one block. -/
def countBlock : Nat := 64

/-- How many blocks are written at most. -/
def mostCounts : Nat := 100000000

/-- Texts that are made one after the other: what comes next, if anything does. -/
structure Supply (σ : Type) where
  next : σ → Option (Chars × σ)

/-- Takes so many texts. -/
def Supply.take {σ : Type} (supply : Supply σ) : Nat → σ → List Chars × Option σ
  | 0, s => ([], some s)
  | count + 1, s =>
    match supply.next s with
    | none => ([], none)
    | some (text, s) =>
      let (texts, rest) := supply.take count s
      (text :: texts, rest)

/-- Writes what a supply makes. What is written waits until a block is full. The first argument
bounds the blocks. -/
def Supply.write {σ : Type} (supply : Supply σ) (name : Chars) : Nat → Octets → σ → Program
  | 0, _, _ => .exit 0
  | bound + 1, held, s =>
    let (texts, rest) := supply.take countBlock s
    let octets := held ++ Text.toOctets texts.flatten
    match rest with
    | none => printBlocks name octets.length octets fun _ => .exit 0
    | some s =>
      let full := octets.length / bufferSize * bufferSize
      printBlocks name full (octets.take full) fun _ =>
        supply.write name bound (octets.drop full) s

/-- The whole numbers from one on, in steps: what stands before the next, and it. There is no end if
no last one is given. -/
def wholeSupply (between : Chars) (step : Nat) (last : Option Nat) :
    Supply (Option (Bool × Nat)) where
  next
    | none => none
    | some (isFirst, n) =>
      if last.any (· < n) then if isFirst then none else some (['\n'], none)
      else
        some ((if isFirst then [] else between) ++ Text.decimal n, some (false, n + step))

/-- Where the counting with floating numbers has got. -/
structure FloatCount where
  /-- How many steps were taken. -/
  steps : Nat
  value : Floating
  /-- The number is the last, whatever it is. -/
  isLast : Bool := false

/-- The floating numbers from one on, in steps. The number just behind the last is written too if it
looks like the last and not like the one before. -/
def floatSupply (format : CountLayout) (between : Chars) (first step last : Floating) :
    Supply (Option FloatCount) where
  next
    | none => none
    | some count =>
      let shown := format.show count.value
      let text := format.before ++ shown ++ format.behind
      let isBeyond (x : Floating) : Bool :=
        if step.isBelow (.zero false) then x.isBelow last else last.isBelow x
      if count.isLast then some (text ++ ['\n'], none)
      else
        let steps := count.steps + 1
        let x := first.add countFormat ((Floating.ofInt countFormat steps).mul countFormat step)
        let next : FloatCount := { steps, value := x }
        if isBeyond x then
          let shownNext := format.show x
          let looksLast :=
            match Number.float? countFormat shownNext with
            | some { value, rest := [], isHeld } =>
              !(isHeld && !isZero value) && !value.isBelow last && !last.isBelow value
                && !value.isNotNumber
            | _ => false
          if looksLast && shownNext != shown then
            some (text ++ between, some { next with isLast := true })
          else some (text ++ ['\n'], none)
        else some (text ++ between, some next)

/-- Whether an argument is made of digits. -/
def isDigits (argument : Chars) : Bool := argument != [] && argument.all Char.isDigit

/-- The greatest step with which whole numbers are counted on their own. -/
def greatestStep : Nat := 200

/-- A number that is whole, not negative, and not too great to be written out. -/
def wholeValue? (bound : CountBound) : Option Nat :=
  match bound.value, bound.places with
  | .finite negative significand exponent, some 0 =>
    if negative then none else some (Layout.scaled significand exponent 0)
  | _, _ => none

/-- Counts from one number to another. -/
def count (name : Chars) (format : Option CountLayout) (between : Chars) (evenWidth : Bool)
    (given : List Chars) (first step last : CountBound) : Program :=
  let plain := format.isNone && !evenWidth && between.length == 1
  let fastStep? := (wholeValue? step).filter fun n => 0 < n && n ≤ greatestStep
  let floating : Program :=
    let format := format.getD (CountLayout.fitting evenWidth first step last)
    let isBeyond :=
      if step.value.isBelow (.zero false) then first.value.isBelow last.value
      else last.value.isBelow first.value
    if isBeyond then .exit 0
    else
      (floatSupply format between first.value step.value last.value).write name mostCounts []
        (some { steps := 0, value := first.value })
  let whole (n step : Nat) (last : Option Nat) : Program :=
    -- Numbers that differ may still be the same as floating numbers.
    if last.any (· < n) then floating
    else (wholeSupply between step last).write name mostCounts [] (some (true, n))
  match plain, fastStep?, given.all isDigits with
  | true, some fastStep, true =>
    let number (text : Chars) : Nat := Number.ofDigits 10 text
    whole (if given.length = 1 then 1 else number (given.headD [])) fastStep
      (some (number (given.getLastD [])))
  | true, some fastStep, false =>
    match wholeValue? first, wholeValue? last, last.value with
    | some n, some m, _ => whole n fastStep (some m)
    | some n, none, .infinite false => whole n fastStep none
    | _, _, _ => floating
  | _, _, _ => floating

/-- Counts between the numbers that arguments give. -/
def countBetween (name : Chars) (format : Option CountLayout) (between : Chars)
    (evenWidth : Bool) (given : List Chars) : Program :=
  let rec bounds : List Chars → Except Chars (List CountBound)
    | [] => .ok []
    | text :: rest =>
      match CountBound.ofText? text with
      | none => .error (Text.spell "invalid floating point argument: " ++ quoted text)
      | some bound =>
        if bound.value.isNotNumber then
          .error (Text.spell "invalid 'not-a-number' argument: " ++ quoted text)
        else (bounds rest).map (bound :: ·)
  -- The step is looked at before the last number is.
  match bounds (given.take 2), bounds (given.drop 2) with
  | .error complaint, _ => askForHelp name complaint
  | .ok [last], _ => count name format between evenWidth given .one .one last
  | .ok [first, last], .ok [] => count name format between evenWidth given first .one last
  | .ok [first, step], later =>
    if isZero step.value then
      askForHelp name (Text.spell "invalid Zero increment value: " ++ quoted (given.getD 1 []))
    else
      match later with
      | .ok (last :: _) => count name format between evenWidth given first step last
      | .ok [] => .exit 1
      | .error complaint => askForHelp name complaint
  | _, _ => .exit 1

/-- The options of `seq`. What looks like a negative number is none. -/
def countRules : OptionRules where
  rules :=
    [{ key := 'f', value := .required }, { key := 's', value := .required }, { key := 'w' }]
  names := [("equal-width", 'w'), ("format", 'f'), ("separator", 's')]
  isStrict := true
  isOperand
    | '-' :: c :: _ => c == '.' || c.isDigit
    | _ => false

/-- Counts. -/
def seq (name : Chars) (arguments : List Chars) : Program :=
  let found := countRules.read arguments
  match found.fault, found.operands with
  | some fault, _ => askForHelp name fault.text
  | none, [] => askForHelp name (Text.spell "missing operand")
  | none, _ :: _ :: _ :: extra :: _ =>
    askForHelp name (Text.spell "extra operand " ++ quoted extra)
  | none, given =>
    let format := (found.value? 'f').map CountLayout.ofText
    let between := (found.value? 's').getD ['\n']
    match format with
    | some (.error complaint) => complain name complaint fun _ => .exit 1
    | some (.ok format) =>
      if found.has 'w' then
        askForHelp name
          (Text.spell "format string may not be specified when printing equal width strings")
      else countBetween name (some format) between false given
    | none => countBetween name none between (found.has 'w') given

end Dialogue.Tool
