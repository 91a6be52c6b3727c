import Dialogue.LineEditor.Script
import Dialogue.Number.Whole

/-!
Escapes in scripts. Some stand for a character that could not be seen, others give one by its
number.
-/

namespace Dialogue.LineEditor

/-- What a text of a script is for. -/
inductive TextUse
  /-- It is one of the two texts that are put for one another. -/
  | transliteration
  /-- It is put beside a line. -/
  | added
  | replacement
  | expression
deriving Repr, DecidableEq

/-- The characters that have a letter behind a backslash. -/
def letterEscapes : List (Char × Char) :=
  [('a', '\x07'), ('f', '\x0c'), ('n', '\n'), ('r', '\r'), ('t', '\t'), ('v', '\x0b')]

/-- The bases of numbers behind a backslash, with how many digits they have at most. -/
def numberEscapes : List (Char × Nat × Nat) := [('d', 10, 3), ('o', 8, 3), ('x', 16, 2)]

/-- The character of a number behind a backslash and a letter, and the rest. Without any digit the
letter stands for itself. -/
def numbered (letter : Char) (base most : Nat) (text : Chars) : Char × Chars :=
  match (text.take most).takeWhile (Number.isDigitOf base) with
  | [] => (letter, text)
  | digits => (Char.ofNat (Number.ofDigits base digits % 256), text.drop digits.length)

/-- A character that came of a number, so that it does not mean anything. In an expression it may
mean something. -/
def guarded (use : TextUse) (c : Char) : Chars :=
  match use with
  | .expression => [c]
  | .replacement => if c = '\\' || c = '&' || c = '\n' then ['\\', c] else [c]
  | _ => if c = '\\' then ['\\', c] else [c]

/-- The control character of another character. -/
def controlOf (c : Char) : Char := Char.ofNat (c.toUpper.toNat ^^^ 0x40)

/-- Works out the escapes of a text; those that it does not know are left. The first argument bounds
them. -/
def unescape (use : TextUse) : Nat → Chars → Except ScriptFault Chars
  | 0, text => .ok text
  | bound + 1, text =>
    match text with
    | '\\' :: 'c' :: '\\' :: '\\' :: rest => (unescape use bound rest).map ('\x1c' :: ·)
    | '\\' :: 'c' :: '\\' :: _ => .error .nestedControl
    | '\\' :: 'c' :: c :: rest =>
      (unescape use bound rest).map fun rest => guarded use (controlOf c) ++ rest
    -- A control character that is not named is none, but its backslash may be left.
    | ['\\', 'c'] => .ok (if use = .replacement || use = .expression then ['\\'] else [])
    | '\\' :: c :: rest =>
      match letterEscapes.lookup c, numberEscapes.lookup c with
      | some meant, _ => (unescape use bound rest).map (meant :: ·)
      | none, some (base, most) =>
        let (meant, rest) := numbered c base most rest
        (unescape use bound rest).map fun rest => guarded use meant ++ rest
      | none, none => (unescape use bound rest).map fun rest => '\\' :: c :: rest
    | c :: rest => (unescape use bound rest).map (c :: ·)
    | [] => .ok []

/-- Works out the escapes of a text. -/
def escaped (use : TextUse) (text : Chars) : Except ScriptFault Chars :=
  unescape use text.length text

/-- A text without the backslashes that take the meaning away from what follows them. -/
def bared : Chars → Chars
  | '\\' :: c :: rest => c :: bared rest
  | c :: rest => c :: bared rest
  | [] => []

/-- One of the two texts that are put for one another, as it is meant: a backslash takes away the
meaning of what follows it, but a letter may still stand for a newline. -/
def exchanged : Chars → Chars
  | '\\' :: 'n' :: rest => '\n' :: exchanged rest
  | '\\' :: c :: rest => c :: exchanged rest
  | c :: rest => c :: exchanged rest
  | [] => []

/-- A text without backslashes is not changed by working out its escapes. -/
theorem unescape_eq_self (use : TextUse) (bound : Nat) (text : Chars) (none : '\\' ∉ text)
    : unescape use bound text = .ok text := by
  induction bound generalizing text with
  | zero => rfl
  | succ bound ih =>
      cases text with
      | nil => simp [unescape]
      | cons c rest =>
          have hc : c ≠ '\\' := fun h => none (by simp [h])
          have hr : '\\' ∉ rest := fun h => none (by simp [h])
          rw [unescape]
          · simp [ih rest hr, Except.map]
          all_goals
            intros
            simp_all

end Dialogue.LineEditor
