import Dialogue.Number.Whole

/-!
Escapes, which a backslash and the characters after it make, and arguments as programs show them in
complaints: between quotes, with escapes for what cannot be shown as it is, or in a form that a shell
would read back.
-/

namespace Dialogue.Tool

/-- At most `count` characters of a kind at the start of a text, and the rest. -/
def takeSome (kind : Char → Bool) : Nat → Chars → Chars × Chars
  | count + 1, c :: rest =>
    if kind c then
      let (taken, rest) := takeSome kind count rest
      (c :: taken, rest)
    else ([], c :: rest)
  | _, text => ([], text)

/-- The escapes of one letter. -/
def letterEscape? : Char → Option Char
  | 'a' => some '\x07'
  | 'b' => some '\x08'
  | 'e' => some '\x1b'
  | 'f' => some '\x0c'
  | 'n' => some '\n'
  | 'r' => some '\r'
  | 't' => some '\t'
  | 'v' => some '\x0b'
  | '\\' => some '\\'
  | _ => none

/-- The octet of a number. -/
def octetOf (n : Nat) : Char := Char.ofNat (n % 256)

/-- The octet in at most so many digits of a base at the start of a text, and the rest, if there is
a digit. -/
def octetEscape? (base most : Nat) (text : Chars) : Option (Char × Chars) :=
  match takeSome (Number.isDigitOf base) most text with
  | ([], _) => none
  | (digits, rest) => some (octetOf (Number.ofDigits base digits), rest)

/-- Whether an octet can be shown as it is. -/
def isShown (c : Char) : Bool := 0x20 ≤ c.toNat && c.toNat < 0x7f

/-- The escape of an octet: a letter for those that have one, and else three octal digits. -/
def escapeOf (c : Char) : Chars :=
  match ("\x07\x08\x0c\n\r\t\x0b".toList.zip "abfnrtv".toList).lookup c with
  | some letter => ['\\', letter]
  | none =>
    let digits := Nat.toDigits 8 c.toNat
    '\\' :: List.replicate (3 - digits.length) '0' ++ digits

/-- An argument between single quotes. -/
def quoted (text : Chars) : Chars :=
  let shown (c : Char) : Chars :=
    if c = '\'' || c = '\\' then ['\\', c] else if isShown c then [c] else escapeOf c
  '\'' :: text.flatMap shown ++ ['\'']

/-- Whether a word has no character that means something between double quotes, or that a shell may
take for something else. -/
def fitsDoubleQuotes (text : Chars) : Bool :=
  let fits (c : Char) : Bool := c.isAlphanum || "%+,-./:]_@ '".toList.contains c
  text.all fits || (text.head?.any fun c => c == '#' || c == '~') && (text.drop 1).all fits

/-- Whether a word has to be quoted for a shell. The flag says that a colon is a reason too. -/
def needsQuotes (colons : Bool) (text : Chars) : Bool :=
  let isBrace : Bool := text = ['\x7b'] ∨ text = ['\x7d']
  text.isEmpty || isBrace || text.head?.any (fun c => c == '#' || c == '~')
    || text.any fun c =>
      !isShown c || (colons && c == ':') || " !\"$&()*;<=>[^\x60|'?\\".toList.contains c

/-- What stands between the single quotes of a word. Escapes stand in quotes of their own; the flag
says that such are open. -/
def shellParts : Bool → Chars → Chars
  | _, [] => []
  | isOpen, c :: rest =>
    if c = '\'' then ['\'', '\\', '\'', '\''] ++ shellParts false rest
    else if isShown c then (if isOpen then ['\'', '\''] else []) ++ c :: shellParts false rest
    else (if isOpen then [] else ['\'', '$', '\'']) ++ escapeOf c ++ shellParts true rest

/-- A word as a shell would read it back. The flags say that a colon is a reason for quotes, and
that quotes are put in any case. -/
def shellQuoted (colons always : Bool) (text : Chars) : Chars :=
  if !always && !needsQuotes colons text then text
  else if text.contains '\'' && fitsDoubleQuotes text then '"' :: text ++ ['"']
  else '\'' :: shellParts false text ++ ['\'']

end Dialogue.Tool
