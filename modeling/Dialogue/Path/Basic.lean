import Dialogue.Text.Octets

/-!
Paths are octets. A slash separates their components; what a component means does not depend on
the files that are there.
-/

namespace Dialogue

/-- A path as it is written. -/
abbrev Path := Octets

/-- A component of a path. -/
inductive Component
  /-- The slash at the start of an absolute path. -/
  | root
  /-- A dot at the start of a path: the place where the path is looked up. -/
  | here
  /-- Two dots: the directory above. -/
  | up
  /-- The name of an entry. -/
  | name (octets : Octets)
deriving Repr, DecidableEq

namespace Path

/-- The octet that separates components. -/
def slash : UInt8 := 0x2f

/-- The octet of a dot. -/
def dot : UInt8 := 0x2e

/-- The pieces of a path between its slashes, empty ones included. -/
def pieces : Path → List Octets
  | [] => [[]]
  | b :: rest =>
    if b = slash then [] :: pieces rest
    else
      match pieces rest with
      | [] => [[b]]
      | piece :: others => (b :: piece) :: others

/-- Whether a path starts at the root. -/
def isAbsolute (path : Path) : Bool := path.head? == some slash

/-- The component that a piece stands for, if it is not the first; empty pieces and dots stand for
none. -/
def componentOfPiece? (piece : Octets) : Option Component :=
  if piece = [] ∨ piece = [dot] then none
  else if piece = [dot, dot] then some .up
  else some (.name piece)

/-- The components of a path. A dot counts only at the very start. -/
def components (path : Path) : List Component :=
  let rest := (pieces path).filterMap componentOfPiece?
  if isAbsolute path then .root :: rest
  else if (pieces path).head? = some [dot] then .here :: rest
  else rest

/-- A path seen from another: an absolute path stays as it is, any other is put behind it. -/
def join (base path : Path) : Path :=
  if isAbsolute path then path
  else if base = [] ∨ base.getLast? = some slash then base ++ path
  else base ++ slash :: path

/-- The name at the end of a path, if it ends in one. -/
def fileName? (path : Path) : Option Octets :=
  match (components path).getLast? with
  | some (.name octets) => some octets
  | _ => none

/-- A path as it is shown. -/
def text (path : Path) : String := Text.shown path

/-- The path that a text is. -/
def ofText (text : String) : Path := Text.octets text

/-- Whether one name comes before another, octet by octet. -/
def before : Octets → Octets → Bool
  | [], [] => false
  | [], _ :: _ => true
  | _ :: _, [] => false
  | a :: first, b :: second => if a = b then before first second else a < b

end Path

end Dialogue
