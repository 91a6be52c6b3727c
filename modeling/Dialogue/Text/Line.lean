/-!
Blanks and lines of a text. A blank is any character with the Unicode property White_Space. `pieces`
cuts at every newline and keeps empty pieces, `lines` reads a finished text line by line, and
`terminated` keeps each line's own ending, which is a newline, a carriage return or both.
-/

namespace Dialogue.Text

/-- The characters that count as white space. -/
def isBlank (c : Char) : Bool :=
  let n := c.toNat
  (0x9 ≤ n && n ≤ 0xd) || n == 0x20 || n == 0x85 || n == 0xa0 || n == 0x1680
    || (0x2000 ≤ n && n ≤ 0x200a) || n == 0x2028 || n == 0x2029 || n == 0x202f || n == 0x205f
    || n == 0x3000

/-- A text without the blanks at its end. -/
def trimEnd (text : List Char) : List Char :=
  (text.reverse.dropWhile isBlank).reverse

/-- A text without the blanks at its start and at its end. -/
def trim (text : List Char) : List Char :=
  trimEnd (text.dropWhile isBlank)

/-- The pieces of a text between its newlines; there is always one more than newlines. -/
def pieces : List Char → List (List Char)
  | [] => [[]]
  | c :: rest =>
    if c = '\n' then [] :: pieces rest
    else
      match pieces rest with
      | [] => [[c]]
      | piece :: others => (c :: piece) :: others

/-- A text without one last carriage return. -/
def dropReturn (text : List Char) : List Char :=
  if text.getLast? = some '\r' then text.dropLast else text

/-- The pieces of a text that end in a newline, and what comes after the last of them. -/
def endedPieces : List Char → List (List Char) × List Char
  | [] => ([], [])
  | c :: rest =>
    match endedPieces rest with
    | (ended, last) =>
      if c = '\n' then ([] :: ended, last)
      else
        match ended with
        | [] => ([], c :: last)
        | piece :: others => ((c :: piece) :: others, last)

/-- The lines of a text: a newline ends a line, with the carriage return before it if there is
one, and an empty last piece is no line. -/
def lines (text : List Char) : List (List Char) :=
  let (ended, last) := endedPieces text
  ended.map dropReturn ++ (if last = [] then [] else [last])

/-- The lines of a text with their endings. A carriage return ends a line unless a newline
follows, which then ends it. -/
def terminated : List Char → List (List Char)
  | [] => []
  | c :: rest =>
    if c = '\n' then [c] :: terminated rest
    else if c = '\r' ∧ rest.head? ≠ some '\n' then [c] :: terminated rest
    else
      match terminated rest with
      | [] => [[c]]
      | line :: others => (c :: line) :: others

end Dialogue.Text
