import Dialogue.LineEditor.Running
import Dialogue.Tool.Options

/-!
The line editor as a program. Its arguments say how it is used, what its script is, and which files
are edited. The parts of the script are read in the order in which they are given, each as it is
meant by the options before it.
-/

namespace Dialogue.LineEditor

open Tool (complain say OptionRules OptionsRead OptionFault)

/-- The options of the line editor. -/
def optionRules : OptionRules where
  rules :=
    "bsnrzuEh".toList.map ({ key := · })
      ++ "eflV".toList.map ({ key := ·, value := .required })
      ++ [{ key := 'i', value := .optional }]
      ++ "pSFdv".toList.map ({ key := ·, isLetter := false })
  names :=
    [("binary", 'b'), ("regexp-extended", 'r'), ("debug", 'd'), ("in-place", 'i'),
      ("expression", 'e'), ("file", 'f'), ("line-length", 'l'), ("null-data", 'z'),
      ("zero-terminated", 'z'), ("quiet", 'n'), ("posix", 'p'), ("silent", 'n'), ("sandbox", 'S'),
      ("separate", 's'), ("unbuffered", 'u'), ("version", 'v'), ("help", 'h'),
      ("follow-symlinks", 'F')]

/-- The line editor while its arguments are read. -/
structure Beginning where
  use : Use
  draft : Draft := {}
  hasScript : Bool := false
  /-- How many parts of the script were arguments. -/
  arguments : Nat := 0
  /-- The files that are written, as they were opened. -/
  targets : List (Chars × TargetFile) := []

/-- Opens the files that a script writes, or ends with a complaint. -/
def openTargets (name : Chars) :
    List Chars → List (Chars × TargetFile) → (List (Chars × TargetFile) → Program) → Program
  | [], targets, next => next targets
  | file :: rest, targets, next =>
    if (targets.lookup file).isSome then openTargets name rest targets next
    else
      .openFile (Text.toOctets file) .write fun
        | .ok descriptor => openTargets name rest ((file, { descriptor }) :: targets) next
        | .error fault =>
          complain name
            (Text.spell "couldn't open file " ++ file ++ Text.spell s!": {fault.systemText}")
            fun _ => .exit 4

/-- Ends because a script is refused. -/
def refuse (name : Chars) (draft : Draft) : Refusal → Program
  | .fault fault => complain name (draft.complaint fault) fun _ => .exit 1
  | .bareClass =>
    complain name (Text.spell "character class syntax is [[:space:]], not [:space:]") fun _ =>
      .exit 4
  | .noLabel label =>
    complain name (Text.spell "can't find label for jump to \x60" ++ label ++ ['\'']) fun _ =>
      .exit 4

/-- Reads one more part of the script. -/
def readPart (b : Beginning) (origin : Origin) (text : Chars) (next : Beginning → Program) :
    Program :=
  let draft := { b.draft.withPart origin text with
    settings := { b.draft.settings with isStrict := b.use.isStrict } }
  let goOn (draft : Draft) (next : Beginning → Program) : Program :=
    openTargets b.use.name draft.targets.reverse b.targets fun targets =>
      let use := { b.use with isStrict := draft.settings.isStrict }
      next { b with use, draft, targets, hasScript := true }
  match Reading.readPart.run draft with
  | .ok _ draft => goOn draft.afterPart next
  | .error refusal draft => goOn draft fun _ => refuse b.use.name draft refusal

/-- Reads a part of the script that is an argument. -/
def readArgument (b : Beginning) (text : Chars) (next : Beginning → Program) : Program :=
  let number := b.arguments + 1
  readPart { b with arguments := number } (.argument number) text next

/-- Reads a part of the script that is in a file. -/
def readScriptFile (b : Beginning) (file : Chars) (next : Beginning → Program) : Program :=
  let read (descriptor : Nat) (close : Program → Program) : Program :=
    .describe descriptor fun kind =>
      -- What comes through a pipe cannot ask for silence.
      let isFirst := b.draft.isFirst && kind.toOption.any (·.sort == .file)
      let b := { b with draft := { b.draft with isFirst } }
      Tool.readAll descriptor Tool.mostReads [] fun octets =>
        close (readPart b (.file file) (Text.ofOctets (octets.toOption.getD [])) next)
  if file = ['-'] then read 0 id
  else
    .openFile (Text.toOctets file) .read fun
      | .ok descriptor => read descriptor fun program => .close descriptor fun _ => program
      | .error fault =>
        complain b.use.name
          (Text.spell "couldn't open file " ++ file ++ Text.spell s!": {fault.systemText}")
          fun _ => .exit 4

/-- How the line editor is used with one more option. -/
def Use.withOption (use : Use) (key : Char) (value : Option Chars) : Use :=
  match key with
  | 'n' => { use with isQuiet := true }
  | 's' => { use with isSeparate := true }
  | 'u' => { use with isUnbuffered := true }
  | 'z' => { use with delimiter := '\x00' }
  | 'i' => { use with isSeparate := true, inPlace := some (value.getD []) }
  | 'p' => { use with isStrict := true }
  | 'l' =>
    let width := (Number.whole64? (some 10) (value.getD [])).map (·.value.toNat)
    { use with width := width.getD 0 }
  | _ => use

/-- What the line editor says about its use. -/
def usageText (name : Chars) : Chars :=
  Text.spell "Usage: " ++ name
    ++ Text.spell " [OPTION]... \x7bscript-only-if-no-other-script\x7d [input-file]...\n\n"

/-- Ends because the arguments cannot be understood. -/
def refuseUse (name : Chars) : Program := say 2 (usageText name) fun _ => .exit 1

/-- Does what the options say, one after the other. -/
def readOptions : List (Char × Option Chars) → Beginning → (Beginning → Program) → Program
  | [], b, next => next b
  | (key, value) :: rest, b, next =>
    let goOn (b : Beginning) : Program := readOptions rest b next
    let withSettings (change : Settings → Settings) : Beginning :=
      { b with draft := { b.draft with settings := change b.draft.settings } }
    match key with
    | 'e' => readArgument b (value.getD []) goOn
    | 'f' => readScriptFile b (value.getD []) goOn
    | 'E' => goOn (withSettings fun s => { s with isExtended := true })
    | 'r' => goOn (withSettings fun s => { s with isExtended := true })
    | 'S' => goOn (withSettings fun s => { s with isConfined := true })
    | 'h' => say 1 (usageText b.use.name) fun _ => .exit 0
    | 'V' => refuseUse b.use.name
    | key => goOn { b with use := b.use.withOption key value }

/-- The files that a script reads beside the input. -/
def besideFiles (commands : Array Command) : List Chars :=
  (commands.toList.filterMap fun command =>
    match command.action with
    | .readLine name => some name
    | _ => none).eraseDups

/-- Opens files that are read beside the input, as far as they are there. -/
def openReaders :
    List Chars → List (Chars × Input) → (List (Chars × Input) → Program) → Program
  | [], readers, next => next readers
  | name :: rest, readers, next =>
    let goOn (descriptor : Nat) : Program :=
      openReaders rest ((name, { descriptor, name }) :: readers) next
    if name = Text.spell "/dev/stdin" then goOn 0
    else
      .openFile (Text.toOctets name) .read fun
        | .ok descriptor => goOn descriptor
        | .error _ => openReaders rest readers next

/-- The line editor before it reads a line. -/
def Beginning.editor (b : Beginning) (draft : Draft) (files : List Chars)
    (readers : List (Chars × Input)) : Editor where
  use := { b.use with isQuiet := b.use.isQuiet || draft.isQuiet }
  commands := draft.commands
  script := draft
  ranges := Work.startRanges draft.commands
  files
  targets := b.targets
  readers

/-- Runs the script on files, or on the input. -/
def edit (b : Beginning) (files : List Chars) : Program :=
  match Reading.finish.run b.draft with
  | .error refusal draft => refuse b.use.name draft refusal
  | .ok _ draft =>
    if files.isEmpty && b.use.inPlace.isSome then
      complain b.use.name (Text.spell "no input files") fun _ => .exit 4
    else
      let files := if files.isEmpty then [['-']] else files
      openReaders (besideFiles draft.commands) [] fun readers =>
        runScript (b.editor draft files readers) fun _ _ => .exit 0

/-- The line editor. -/
def sed (name : Chars) (arguments : List Chars) (vars : Variables) : Program :=
  let found := optionRules.read arguments
  readOptions found.options { use := { name, vars } } fun b =>
    match found.fault with
    | some fault => complain name fault.text fun _ => refuseUse name
    | none =>
      if b.hasScript then edit b found.operands
      else
        match found.operands with
        | [] => refuseUse name
        | script :: files => readArgument b script fun b => edit b files

end Dialogue.LineEditor
