import Dialogue.Shell.Token

/-!
Sources: the text of a script that is still to be read, with the line that it has come to. The text
of an alias stands before the text that follows the alias; it is in use until something behind it is
read.
-/

namespace Dialogue.Shell

/-- Why a script cannot be read on. -/
inductive ReadFault
  /-- What is there of it ends here, and more may come. -/
  | unfinished
  | invalid (line : Nat) (complaint : String)

/-- An alias in use. -/
structure AliasUse where
  name : Chars
  /-- How much of its text is unread. -/
  left : Nat
  /-- Its text ends with a blank. -/
  endsBlank : Bool

/-- A text that is to be read at the end of the line. -/
structure PendingText where
  number : Nat
  /-- The line that ends it. -/
  mark : Chars
  stripsTabs : Bool
  isExpanded : Bool

/-- A source. -/
structure Source where
  unread : Chars
  /-- Nothing more will come. -/
  isWhole : Bool := true
  line : Nat := 1
  aliases : List (Chars × Chars) := []
  /-- The aliases in use, the innermost first. -/
  uses : List AliasUse := []
  /-- The text of an alias that ends with a blank has just been left. -/
  leftBlank : Bool := false
  /-- A token that has been read ahead. -/
  ahead : Option Token := none
  /-- The last word. -/
  lastWord : Word := []
  pending : List PendingText := []
  /-- The texts that were read, by their numbers. -/
  texts : List (Nat × HereText) := []
  nextText : Nat := 0

namespace Source

/-- The aliases whose text is not behind, when one more character is read. -/
def leaveAliases : List AliasUse → List AliasUse × Bool
  | [] => ([], false)
  | use :: rest =>
    match use.left with
    | 0 =>
      let (uses, blank) := leaveAliases rest
      (uses, use.endsBlank || blank)
    | left + 1 => ({ use with left } :: rest, false)

/-- A source without its next character. -/
def drop (s : Source) : Source :=
  let (uses, blank) := leaveAliases s.uses
  { s with unread := s.unread.drop 1, uses, leftBlank := s.leftBlank || blank }

/-- A source without so many characters. -/
def dropMany : Nat → Source → Source
  | 0, s => s
  | n + 1, s => dropMany n s.drop

/-- A source on the next line. -/
def nextLine (s : Source) : Source := { s with line := s.line + 1 }

/-- Puts the text of an alias before what is to be read. -/
def useAlias (s : Source) (name text : Chars) : Source :=
  if text = [] then s
  else
    let endsBlank := text.getLast? == some ' ' || text.getLast? == some '\t'
    { s with
      unread := text ++ s.unread
      uses := { name, left := text.length, endsBlank } :: s.uses }

/-- The text of an alias that is not in use. -/
def alias? (s : Source) (name : Chars) : Option Chars :=
  if s.uses.any (·.name == name) then none else s.aliases.lookup name

/-- Dropping the next character drops it. -/
@[simp]
theorem unread_drop (s : Source)
    : s.drop.unread = s.unread.drop 1 := by
  rfl

end Source

/-- The reading of a source. -/
abbrev Reading (α : Type) := StateT Source (Except ReadFault) α

namespace Reading

/-- Refuses a script. -/
def refuse {α : Type} (complaint : String) : Reading α := do
  throw (.invalid (← get).line complaint)

/-- The next character, which is not taken; none at the end. -/
def peek : Reading (Option Char) := do
  let s ← get
  match s.unread with
  | c :: _ => return some c
  | [] => if s.isWhole then return none else throw .unfinished

/-- Takes the next character. At the end nothing is taken. -/
def take : Reading Unit := do
  if (← peek).isSome then modify Source.drop else modify fun s =>
    let (uses, blank) := Source.leaveAliases s.uses
    { s with uses, leftBlank := s.leftBlank || blank }

/-- Takes newlines with a backslash before them, which join lines. The first argument bounds
them. -/
def joinLines : Nat → Reading Unit
  | 0 => pure ()
  | bound + 1 => do
    let s ← get
    match s.unread with
    | '\\' :: '\n' :: _ =>
      set s.drop.drop.nextLine
      joinLines bound
    | ['\\'] => if s.isWhole then pure () else throw .unfinished
    | _ => pure ()

/-- How many lines may be joined. -/
def mostLines : Nat := 100000000

/-- The next character after joined lines, which is not taken. -/
def peekJoined : Reading (Option Char) := do
  joinLines mostLines
  peek

/-- Takes the next character if it is the given one. -/
def accept (c : Char) : Reading Bool := do
  if (← peekJoined) = some c then
    take
    return true
  else return false

/-- Takes characters of a kind, joining lines. The first argument bounds them. -/
def takeWhile (kind : Char → Bool) : Nat → Chars → Reading Chars
  | 0, taken => pure taken.reverse
  | bound + 1, taken => do
    match ← peekJoined with
    | some c =>
      if kind c then
        take
        takeWhile kind bound (c :: taken)
      else return taken.reverse
    | none => return taken.reverse

/-- Takes a newline, which is the next character. -/
def takeNewline : Reading Unit := do
  take
  modify Source.nextLine

end Reading

end Dialogue.Shell
