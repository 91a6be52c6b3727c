import Dialogue.LineEditor.Script

/-!
Replacing in a line. Matches are looked for from left to right; one that is empty does not count
right behind another one. The case of letters is changed part by part.
-/

namespace Dialogue.LineEditor

/-- A piece of a text between two places. -/
def piece (text : Chars) (start stop : Nat) : Chars := (text.drop start).take (stop - start)

namespace Found

/-- What a group has matched, or all of the match for the group zero. -/
def groupText (found : Found) (text : Chars) : Nat → Chars
  | 0 => piece text found.start found.stop
  | group + 1 =>
    match found.groups.getD group none with
    | some (start, stop) => piece text start stop
    | none => []

end Found

/-- What is put in the place of a match. A change of the first letter that finds no letter in its
own part is made in the next one, unless that has a change of its own. -/
def replacementText (found : Found) (text : Chars) :
    LetterCase → List ReplacementPart → Chars
  | _, [] => []
  | pending, part :: rest =>
    let isOwn : Bool := part.change.first ≠ .kept
    let change := if isOwn then part.change else { part.change with first := pending }
    let put := change.apply part.text
    let change := if part.text.isEmpty then change else { change with first := .kept }
    match part.group with
    | none => put ++ replacementText found text .kept rest
    | some group =>
      let matched := Found.groupText found text group
      let pending := if matched.isEmpty && isOwn then change.first else .kept
      put ++ change.apply matched ++ replacementText found text pending rest

/-- How a replacement in a line goes on. -/
structure Replacing where
  /-- Where the next match is looked for. -/
  start : Nat := 0
  /-- Where the last match has ended. -/
  matched : Option Nat := none
  /-- How many matches there have been. -/
  count : Nat := 0
  /-- What has been written, piece by piece, the last one first. -/
  written : List Chars := []
  replaced : Bool := false

/-- Goes on with a replacement in a line up to its end. The first argument bounds the matches. -/
def replaceFrom (search : Nat → Option Found) (s : Substitution) (text : Chars) (length : Nat) :
    Nat → Replacing → Replacing
  | 0, r => r
  | bound + 1, r =>
    match if r.start ≤ length then search r.start else none with
    | none => { r with written := text.drop r.start :: r.written }
    | some found =>
      let written := piece text r.start found.start :: r.written
      let isEmpty := found.start == found.stop
      -- After an empty match one character is passed over.
      let passed := if isEmpty then piece text found.stop (found.stop + 1) else []
      let start := if isEmpty then found.stop + 1 else found.stop
      let next : Replacing := { r with start, matched := some found.stop }
      if isEmpty && r.matched = some found.start then
        replaceFrom search s text length bound { next with written := passed :: written }
      else
        let count := r.count + 1
        if count < s.occurrence then
          let kept := piece text found.start found.stop
          replaceFrom search s text length bound
            { next with count, written := passed :: kept :: written }
        else
          let put := replacementText found text .kept s.replacement
          let next :=
            { next with count, written := passed :: put :: written, replaced := true }
          if s.everywhere then replaceFrom search s text length bound next
          else { next with written := text.drop start :: next.written }

/-- The line in which matches are replaced, if there are any; the flag says that some of them have
been replaced. -/
def Substitution.replace? (s : Substitution) (matcher : Matcher) (delimiter : Char)
    (text : Chars) : Option (Chars × Bool) :=
  let wantsGroups := s.replacement.any fun part => part.group.any (0 < ·)
  let search (start : Nat) : Option Found := matcher.search delimiter text start wantsGroups
  let r := replaceFrom search s text text.length (text.length + 2) {}
  r.matched.map fun _ => (r.written.reverse.flatten, r.replaced)

/-- The characters of a line as they can be seen, with escapes for those that cannot. -/
def seenAs (c : Char) : Chars :=
  match [('\\', '\\'), ('\x07', 'a'), ('\x08', 'b'), ('\x0c', 'f'), ('\n', 'n'), ('\r', 'r'),
      ('\t', 't'), ('\x0b', 'v')].lookup c with
  | some letter => ['\\', letter]
  | none =>
    if 0x20 ≤ c.toNat ∧ c.toNat < 0x7f then [c]
    else
      let digits := Nat.toDigits 8 c.toNat
      '\\' :: List.replicate (3 - digits.length) '0' ++ digits

/-- A line so that everything in it can be seen, in lines of some width, or of any width for zero. A
backslash and the delimiter end a line that goes on. The third argument counts the characters that
are on the present line. -/
def listed (delimiter : Char) (width : Nat) : Nat → Chars → Chars
  | _, [] => ['$']
  | used, c :: rest =>
    let shown := seenAs c
    if 0 < width ∧ width < used + shown.length + 1 then
      '\\' :: delimiter :: shown ++ listed delimiter width shown.length rest
    else shown ++ listed delimiter width (used + shown.length) rest

end Dialogue.LineEditor
