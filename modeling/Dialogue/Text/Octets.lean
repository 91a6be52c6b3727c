/-!
Text as octets. `encode` writes characters in UTF-8, `decodeLossy` reads any octets and puts one
replacement character for each longest ill-formed part, and `decode?` reads well-formed octets
only. Reading goes octet by octet, so that it can stop and go on between any two of them.
-/

namespace Dialogue

/-- A sequence of octets, as a program writes and reads them. -/
abbrev Octets := List UInt8

namespace Text

/-- The character that stands for octets which are not text. -/
def replacement : Char := Char.ofNat 0xfffd

/-- The UTF-8 form of a list of characters. -/
def encode (text : List Char) : Octets :=
  text.flatMap String.utf8EncodeChar

/-- The empty text has no octets. -/
@[simp]
theorem encode_nil
    : encode [] = [] :=
  rfl

/-- Characters are encoded one by one. -/
@[simp]
theorem encode_cons (c : Char) (text : List Char)
    : encode (c :: text) = String.utf8EncodeChar c ++ encode text :=
  rfl

/-- Texts are encoded piece by piece. -/
@[simp]
theorem encode_append (first second : List Char)
    : encode (first ++ second) = encode first ++ encode second := by
  simp [encode]

/-- A character of which some octets have been read: the value so far, how many octets are owed,
and the range in which the next one must lie. -/
structure Unfinished where
  value : Nat
  owed : Nat
  least : UInt8
  greatest : UInt8
deriving Repr, DecidableEq

/-- What a first octet announces: a whole character, the start of a longer one, or nothing that
can begin a character. The ranges of the second octet shut out overlong forms, surrogates and
numbers past the last code point. -/
inductive Lead
  | whole (c : Char)
  | start (rest : Unfinished)
  | illFormed
deriving Repr, DecidableEq

/-- The reading of an octet at the start of a character. -/
def Lead.ofOctet (b : UInt8) : Lead :=
  let n := b.toNat
  if n < 0x80 then .whole (Char.ofNat n)
  else if n < 0xc2 then .illFormed
  else if n < 0xe0 then .start ⟨n - 0xc0, 1, 0x80, 0xbf⟩
  else if n = 0xe0 then .start ⟨0, 2, 0xa0, 0xbf⟩
  else if n = 0xed then .start ⟨0xd, 2, 0x80, 0x9f⟩
  else if n < 0xf0 then .start ⟨n - 0xe0, 2, 0x80, 0xbf⟩
  else if n = 0xf0 then .start ⟨0, 3, 0x90, 0xbf⟩
  else if n < 0xf4 then .start ⟨n - 0xf0, 3, 0x80, 0xbf⟩
  else if n = 0xf4 then .start ⟨4, 3, 0x80, 0x8f⟩
  else .illFormed

/-- Reads an octet at the start of a character: the characters it completes and what is left
unfinished. -/
def begin (b : UInt8) : List Char × Option Unfinished :=
  match Lead.ofOctet b with
  | .whole c => ([c], none)
  | .start rest => ([], some rest)
  | .illFormed => ([replacement], none)

/-- Reads one octet. An octet that an unfinished character cannot take ends it there: the part
read so far is replaced, and the octet begins a character anew. -/
def advance : Option Unfinished → UInt8 → List Char × Option Unfinished
  | none, b => begin b
  | some part, b =>
    if part.least ≤ b ∧ b ≤ part.greatest then
      let value := part.value * 64 + (b.toNat - 0x80)
      if part.owed ≤ 1 then ([Char.ofNat value], none)
      else ([], some ⟨value, part.owed - 1, 0x80, 0xbf⟩)
    else
      let (text, rest) := begin b
      (replacement :: text, rest)

/-- Reads octets from a point inside a character; an unfinished character at the end is one
ill-formed part. -/
def decodeFrom : Option Unfinished → Octets → List Char
  | none, [] => []
  | some _, [] => [replacement]
  | part, b :: rest =>
    let (text, next) := advance part b
    text ++ decodeFrom next rest

/-- The text of any octets: ill-formed parts, each as long as possible, become one replacement
character each. -/
def decodeLossy (octets : Octets) : List Char :=
  decodeFrom none octets

/-- The text of well-formed octets. Octets are well formed exactly if writing their lossy reading
gives them back, since the form of a replacement character differs from what it replaces. -/
def decode? (octets : Octets) : Option (List Char) :=
  let text := decodeLossy octets
  if encode text = octets then some text else none

/-- The octets of a string. -/
def octets (text : String) : Octets :=
  encode text.toList

/-- The string shown for any octets. -/
def shown (octets : Octets) : String :=
  String.ofList (decodeLossy octets)

end Text

end Dialogue
