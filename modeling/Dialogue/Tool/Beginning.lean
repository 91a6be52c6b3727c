import Dialogue.Tool.Options
import Dialogue.Tool.Quoting
import Dialogue.Tool.Size
import Dialogue.Tool.Stream

/-!
Beginnings of files: `head`. So many lines or octets are written, or all but so many at the end.
What has been read and is not written is given back where that can be done.
-/

namespace Dialogue.Tool

/-- How much of a file `head` writes: so many lines or octets, or all but so many. -/
structure HeadCount where
  lines : Bool := true
  allBut : Bool := false
  count : Nat := 10
  /-- What ends a line. -/
  newline : UInt8 := 0x0a

/-- The lines of octets, each with the octet that ends it. -/
def endedLines (newline : UInt8) : Octets → List Octets
  | [] => []
  | b :: rest =>
    if b = newline then [b] :: endedLines newline rest
    else
      match endedLines newline rest with
      | [] => [[b]]
      | line :: others => (b :: line) :: others

/-- The beginning of a file. -/
def HeadCount.take (head : HeadCount) (octets : Octets) : Octets :=
  if head.lines then
    let lines := endedLines head.newline octets
    (lines.take (if head.allBut then lines.length - head.count else head.count)).flatten
  else octets.take (if head.allBut then octets.length - head.count else head.count)

/-- Whether no more has to be read. -/
def HeadCount.isDone (head : HeadCount) (octets : Octets) : Bool :=
  !head.allBut
    && (if head.lines then head.count ≤ octets.count head.newline else head.count ≤ octets.length)

/-- Reads as much of a descriptor as is needed. The first argument bounds the reads. -/
def readHead (head : HeadCount) (descriptor : Nat) :
    Nat → Octets → (Except Fault Octets → Program) → Program
  | 0, before, next => next (.ok before)
  | reads + 1, before, next =>
    if head.isDone before then next (.ok before)
    else
      -- Of octets that are counted no more are read than are wanted.
      let wanted := if head.lines || head.allBut then 8192 else head.count - before.length
      .read descriptor (min 8192 wanted) fun
        | .error fault => next (.error fault)
        | .ok [] => next (.ok before)
        | .ok octets => readHead head descriptor reads (before ++ octets) next

/-- Writes the beginnings of files; the flag says that each has its name before it. -/
def headFiles (name : Chars) (head : HeadCount) (titled : Bool) (isFirst : Bool) (code : Nat) :
    List Chars → Program
  | [] => .exit code
  | file :: rest =>
    let failed (text : Chars) : Program :=
      complain name text fun _ => headFiles name head titled isFirst 1 rest
    let shown := if file = ['-'] then Text.spell "standard input" else file
    let title : Chars :=
      if titled then
        (if isFirst then [] else ['\n']) ++ Text.spell "==> " ++ shown ++ Text.spell " <==\n"
      else []
    let show' (descriptor : Nat) : Program :=
      readHead head descriptor mostReads [] fun
        | .error fault =>
          failed (Text.spell "error reading " ++ shellQuoted false true shown
            ++ Text.spell s!": {fault.systemText}")
        | .ok octets =>
          let taken := head.take octets
          .goBack descriptor (octets.length - taken.length) fun _ =>
            print name (title ++ Text.ofOctets taken) fun _ =>
              headFiles name head titled false code rest
    if file = ['-'] then show' 0
    else
      .openFile (Text.toOctets file) .read fun
        | .error fault =>
          failed (Text.spell "cannot open " ++ shellQuoted false true file
            ++ Text.spell s!" for reading: {fault.systemText}")
        | .ok descriptor => show' descriptor

/-- The options of `head`. -/
def headRules : OptionRules where
  rules :=
    [{ key := 'n', value := .required }, { key := 'c', value := .required }, { key := 'q' },
      { key := 'v' }, { key := 'z' }]
  names :=
    [("lines", 'n'), ("bytes", 'c'), ("quiet", 'q'), ("silent", 'q'), ("verbose", 'v'),
      ("zero-terminated", 'z')]

/-- The options that letters behind a number stand for: the key and the unit of the number, and the
others. The answer is a letter if it means nothing. -/
def countLetters (key : Char) (unit : Chars) : Chars →
    Except Char (Char × Chars × List (Char × Option Chars))
  | [] => .ok (key, unit, [])
  | c :: rest =>
    match c with
    | 'c' => countLetters 'c' [] rest
    | 'l' => countLetters 'n' unit rest
    | 'b' | 'k' | 'm' => countLetters 'c' [c] rest
    | 'q' | 'v' | 'z' => do
      let (key, unit, others) ← countLetters key unit rest
      return (key, unit, (c, none) :: others)
    | _ => .error c

/-- The options that a first argument stands for that is a number behind a hyphen. -/
def countOptions? : Chars → Option (Except Char (List (Char × Option Chars)))
  | '-' :: digit :: more =>
    if digit.isDigit then
      let digits := (digit :: more).takeWhile Char.isDigit
      some
        (match countLetters 'n' [] ((digit :: more).dropWhile Char.isDigit) with
        | .error letter => .error letter
        | .ok (key, unit, others) => .ok (others ++ [(key, some (digits ++ unit))]))
    else none
  | _ => none

namespace HeadCount

/-- What an option makes of how much is written, or what is wrong with it. -/
def note (head : HeadCount) : Char × Option Chars → Except Chars HeadCount
  | ('z', _) => .ok { head with newline := 0 }
  | ('n', some value) => counted true "lines" value
  | ('c', some value) => counted false "bytes" value
  | _ => .ok head
where
  counted (lines : Bool) (unit : String) (value : Chars) : Except Chars HeadCount :=
    let (allBut, text) :=
      match value with
      | '-' :: text => (true, text)
      | text => (false, text)
    let refused (text : Chars) : Chars :=
      Text.spell s!"invalid number of {unit}: " ++ quoted text
    let large : Chars := Text.spell ": Value too large for defined data type"
    match size? text with
    | .error .malformed => .error (refused text)
    | .error .tooLarge => .error (refused text ++ large)
    | .ok count =>
      if allBut && !lines && Number.greatestWhole < count then
        .error (refused (Nat.toDigits 10 count) ++ large)
      else .ok { head with lines, allBut, count }

end HeadCount

/-- Writes the beginnings of files, or of the input. -/
def head (name : Chars) (arguments : List Chars) : Program :=
  let trailing (letter : Char) : Program :=
    askForHelp name (Text.spell "invalid trailing option -- " ++ [letter])
  let run (before : List (Char × Option Chars)) (arguments : List Chars) : Program :=
    let found := headRules.read arguments
    let options := before ++ found.options
    match options.foldlM HeadCount.note {} with
    | .error text => complain name text fun _ => .exit 1
    | .ok head =>
      match found.fault with
      | some (.unknownLetter c) =>
        if c.isDigit then trailing c else askForHelp name (OptionFault.unknownLetter c).text
      | some fault => askForHelp name fault.text
      | none =>
        let files := if found.operands.isEmpty then [['-']] else found.operands
        let titled :=
          match (options.filter fun option => option.1 = 'q' || option.1 = 'v').getLast? with
          | some (key, _) => key = 'v'
          | none => 1 < files.length
        headFiles name head titled true 0 files
  match arguments with
  | first :: rest =>
    match countOptions? first with
    | some (.ok before) => run before rest
    | some (.error letter) => trailing letter
    | none => run [] arguments
  | [] => run [] []

end Dialogue.Tool
