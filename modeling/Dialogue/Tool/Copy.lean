import Dialogue.Number.Whole
import Dialogue.Tool.Options
import Dialogue.Tool.Quoting
import Dialogue.Tool.Stream

/-!
Copying: `cat`, which writes files one after another, with or without marks in their lines.
-/

namespace Dialogue.Tool

/-- What `cat` writes besides the lines of its files. -/
structure CopyStyle where
  /-- Each line has its number before it. -/
  numbers : Bool := false
  /-- Only lines that are not empty have a number. -/
  numbersFilled : Bool := false
  /-- Of several empty lines one is left. -/
  squeezes : Bool := false
  /-- The end of a line shows as a dollar sign. -/
  showsEnds : Bool := false
  /-- A tab shows as `^I`. -/
  showsTabs : Bool := false
  /-- Other octets that do not print show as `^` and `M-`. -/
  showsControls : Bool := false
deriving DecidableEq

namespace CopyStyle

/-- The style with one more option. -/
def withOption (style : CopyStyle) (option : Char) : CopyStyle :=
  match option with
  | 'n' => { style with numbers := true }
  | 'b' => { style with numbersFilled := true }
  | 's' => { style with squeezes := true }
  | 'E' => { style with showsEnds := true }
  | 'T' => { style with showsTabs := true }
  | 'v' => { style with showsControls := true }
  | 'e' => { style with showsControls := true, showsEnds := true }
  | 't' => { style with showsControls := true, showsTabs := true }
  | 'A' => { style with showsControls := true, showsEnds := true, showsTabs := true }
  | _ => style

/-- Octets below 128 as they show when controls do. -/
def spellLow (octet : UInt8) : Octets :=
  if octet < 0x20 then [0x5e, octet + 0x40] else if octet = 0x7f then [0x5e, 0x3f] else [octet]

/-- How an octet of a line shows. -/
def spell (style : CopyStyle) (octet : UInt8) : Octets :=
  if octet = 0x09 then if style.showsTabs then [0x5e, 0x49] else [octet]
  else if !style.showsControls then [octet]
  else if octet < 0x80 then spellLow octet
  else 0x4d :: 0x2d :: spellLow (octet - 0x80)

/-- Whether a carriage return shows if it stands at the end of a line. -/
def showsReturns (style : CopyStyle) : Bool := style.showsEnds && !style.showsControls

end CopyStyle

/-- Where `cat` is in the lines that it writes. -/
structure CopyPlace where
  /-- How many lines have a number. -/
  lines : Nat := 0
  /-- A line begins here. -/
  fresh : Bool := true
  /-- How many lines just before are empty. -/
  emptyLines : Nat := 0
  /-- A carriage return has been read that is written only when the next octet is known. -/
  heldReturn : Bool := false

/-- The number of a line, as it stands before it. -/
def lineNumber (n : Nat) : Octets :=
  let digits := Text.decimal n
  Text.toOctets (List.replicate (6 - digits.length) ' ' ++ digits ++ ['\t'])

/-- What one octet comes to, and where it leads. -/
def CopyPlace.step (style : CopyStyle) (place : CopyPlace) (octet : UInt8) : CopyPlace × Octets :=
  let isEnd : Bool := octet = 0x0a
  let isEmpty := place.fresh && isEnd
  let emptyLines := if isEmpty then place.emptyLines + 1 else if place.fresh then 0 else
    place.emptyLines
  if style.squeezes && isEmpty && 1 < emptyLines then ({ place with emptyLines }, [])
  else
    let counts := place.fresh
      && (if style.numbersFilled then !isEmpty else style.numbers)
    let lines := if counts then place.lines + 1 else place.lines
    let number := if counts then lineNumber lines else []
    let held : Octets :=
      if !place.heldReturn then [] else if isEnd then [0x5e, 0x4d] else [0x0d]
    let heldReturn : Bool := style.showsReturns && octet = 0x0d
    let shown :=
      if isEnd then if style.showsEnds then [0x24, 0x0a] else [0x0a]
      else if heldReturn then []
      else style.spell octet
    ({ lines, fresh := isEnd, emptyLines, heldReturn }, held ++ number ++ shown)

/-- What a block of octets comes to. -/
def CopyPlace.block (style : CopyStyle) (place : CopyPlace) (octets : Octets) :
    CopyPlace × Octets :=
  let (place, pieces) :=
    octets.foldl
      (fun (place, pieces) octet =>
        let (place, piece) := place.step style octet
        (place, piece :: pieces))
      (place, [])
  (place, pieces.reverse.flatten)

/-- Copies all of a descriptor to the output, with the marks of a style. -/
def copyMarked (name : Chars) (style : CopyStyle) (descriptor : Nat) :
    Nat → CopyPlace → (Except Fault Unit → CopyPlace → Program) → Program
  | 0, place, next => next (.ok ()) place
  | reads + 1, place, next =>
    .read descriptor blockSize fun
      | .error fault => next (.error fault) place
      | .ok [] => next (.ok ()) place
      | .ok octets =>
        let (place, shown) :=
          if style = {} then (place, octets) else place.block style octets
        if shown = [] then copyMarked name style descriptor reads place next
        else
          .write 1 shown fun
            | .error fault => writeFault name fault
            | .ok () => copyMarked name style descriptor reads place next

/-- Whether copying one file into another would never end, because they are the same. -/
def isSameFile (source target : NodeKind) : Bool :=
  source.sort == .file && target.sort == .file && source.place == target.place && 0 < source.size

/-- What is left to be done when all files have been copied. -/
def finishCopy (name : Chars) (place : CopyPlace) (usedInput : Bool) (code : Nat) : Program :=
  print name (if place.heldReturn then ['\r'] else []) fun _ =>
    if usedInput then
      .describe 0 fun
        | .ok _ => .exit code
        | .error fault =>
          complain name (Text.spell s!"closing standard input: {fault.systemText}") fun _ =>
            .exit 1
    else .exit code

/-- Copies files, and the input for a name of one hyphen, to an output of some kind. -/
def copyFiles (name : Chars) (style : CopyStyle) (output : NodeKind) (place : CopyPlace)
    (usedInput : Bool) (code : Nat) : List Chars → Program
  | [] => finishCopy name place usedInput code
  | file :: rest =>
    let usesInput := usedInput || file = ['-']
    let failed (text : String) (place : CopyPlace) : Program :=
      complain name (shellQuoted true false file ++ Text.spell s!": {text}") fun _ =>
        copyFiles name style output place usesInput 1 rest
    let copy (descriptor : Nat) (close : Program → Program) : Program :=
      .describe descriptor fun
        | .error fault => failed fault.systemText place
        | .ok kind =>
          if isSameFile kind output then close (failed "input file is output file" place)
          else
            copyMarked name style descriptor mostReads place fun result place =>
              match result with
              | .error fault => close (failed fault.systemText place)
              | .ok () => close (copyFiles name style output place usesInput code rest)
    if file = ['-'] then copy 0 id
    else
      .openFile (Text.toOctets file) .read fun
        | .error fault => failed fault.systemText place
        | .ok descriptor => copy descriptor fun next => .close descriptor fun _ => next

/-- The options of `cat`. -/
def copyRules : OptionRules where
  rules := "benstuvAET".toList.map ({ key := · })
  names :=
    [("number-nonblank", 'b'), ("number", 'n'), ("squeeze-blank", 's'),
      ("show-nonprinting", 'v'), ("show-ends", 'E'), ("show-tabs", 'T'), ("show-all", 'A')]

/-- Copies files, or without any name the input. -/
def cat (name : Chars) (arguments : List Chars) : Program :=
  let found := copyRules.read arguments
  match found.fault with
  | some fault => askForHelp name fault.text
  | none =>
    let style := found.options.foldl (fun style option => style.withOption option.1) {}
    .describe 1 fun
      | .error fault =>
        complain name (Text.spell s!"standard output: {fault.systemText}") fun _ => .exit 1
      | .ok output =>
        let files := if found.operands.isEmpty then [['-']] else found.operands
        copyFiles name style output {} false 0 files

end Dialogue.Tool
