import Dialogue.Shell.Builtin.Letters
import Dialogue.Shell.Fields

/-!
Reading a line into variables. The line is split into fields as a word is; the last variable gets
all that is left. A backslash takes the meaning away from the character after it, and joins lines.
-/

namespace Dialogue.Shell

open Activity

/-- A line that is being read. -/
structure LineRead where
  /-- What was read, as far as it is behind an escaped character, the latest first. -/
  segments : List Segment := []
  /-- What was read since, the latest first. -/
  current : List Glyph := []
  /-- The last character was a backslash that counts. -/
  isEscaped : Bool := false
  /-- The input ended, or a signal came, before the line did. -/
  isCut : Bool := false

namespace LineRead

/-- Ends the stretch that may be split. -/
def close (line : LineRead) : List Segment :=
  { glyphs := line.current.reverse, splitting := .fields } :: line.segments

/-- Takes one more character; the answer is none if the line ends with it. -/
def take (isRaw : Bool) (c : Char) (line : LineRead) : Option LineRead :=
  if c = '\x00' then some line
  else if line.isEscaped then
    let segments :=
      if c = '\n' then line.close else { glyphs := [.escaped c] } :: line.close
    some { line with segments, current := [], isEscaped := false }
  else if c = '\\' && !isRaw then some { line with isEscaped := true }
  else if c = '\n' then none
  else some { line with current := .plain c :: line.current }

end LineRead

/-- Reads a line character by character. The first argument bounds them. -/
def readCharacters (isRaw : Bool) : Nat → LineRead → Activity LineRead
  | 0, line => pure line
  | bound + 1, line => do
    let s ← state
    let interrupted ← if s.hasTraps then ask (Program.await 0) else pure false
    if interrupted then return { line with isCut := true }
    match ← ask (Program.read 0 1) with
    | .ok (b :: _) =>
      match line.take isRaw (Char.ofNat b.toNat) with
      | some line => readCharacters isRaw bound line
      | none => return line
    | _ => return { line with isCut := true }

/-- Sets variables to fields; those for which there is none left are set to nothing. -/
def assignFields : List Chars → List (List Glyph) → Activity Unit
  | [], _ => pure ()
  | name :: names, fields => do
    assignChecked name (Glyph.text (fields.headD []))
    assignFields names (fields.drop 1)

/-- Reads a line into variables. -/
def runRead (arguments : List Chars) : Activity Nat := do
  let (letters, names) ← readLetters "r" "p" arguments
  if names.isEmpty then failText "arg count"
  let line ← readCharacters (isGiven 'r' letters) Tool.mostReads {}
  let separators := (← state).separators
  assignFields names (fieldsOf separators (some names.length) line.close.reverse)
  return if line.isCut then 1 else 0

end Dialogue.Shell
