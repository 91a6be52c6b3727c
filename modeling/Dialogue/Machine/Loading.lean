import Dialogue.Machine.Program

/-!
Loading programs from files. A file is a program of the machine itself, or its first line names the
interpreter that runs it.
-/

namespace Dialogue.Machine

/-- How much of a file is looked at for the line that names its interpreter. -/
def headSize : Nat := 256

/-- Whether an octet is a blank in the line that names an interpreter. -/
def isLineGap (b : UInt8) : Bool := b == 0x20 || b == 0x09

/-- The line that names an interpreter, in a head after its two signs. Without a newline it reaches
to the end of the head, but then the name itself must end before. -/
def interpreterText? (rest : Octets) : Option Octets :=
  if (rest.takeWhile (· ≠ 0)).contains 0x0a then some (rest.takeWhile (· ≠ 0x0a))
  else if (rest.dropWhile isLineGap).any fun b => isLineGap b || b == 0 then some rest.dropLast
  else none

/-- The interpreter that the first line of a file names, and at most one argument for it. -/
def interpreterLine? (content : Octets) : Option (Octets × List Octets) :=
  let head := content.take headSize
  match head ++ List.replicate (headSize - head.length) 0 with
  | 0x23 :: 0x21 :: rest =>
    match interpreterText? rest with
    | none => none
    | some line =>
      let line := (line.reverse.dropWhile isLineGap).reverse.dropWhile isLineGap
      if line = [] then none
      else
        let inName (b : UInt8) : Bool := !isLineGap b && b != 0
        let after := line.dropWhile inName
        let argument := (after.dropWhile isLineGap).takeWhile (· ≠ 0)
        some (line.takeWhile inName, if after.head?.any isLineGap then [argument] else [])
  | _ => none

/-- Why a file cannot be run, if it cannot. -/
def runFault? (tree : FileTree) (path : Path) : Option Fault :=
  match if path = [] then .error .noAccess else tree.node? path with
  | .error fault => some fault
  | .ok (.builtin _) => none
  | .ok (.file _ true _) => none
  | .ok _ => some .noAccess

/-- Loads the program in a file. A file that names an interpreter is run by it; interpreters may
themselves be interpreted, but only so deep. -/
def load (catalogue : Catalogue) (tree : FileTree) (vars : Variables) (depth : Nat) (path : Path)
    (arguments : List Octets) : Except Fault Program :=
  match tree.node? path with
  | .error fault => .error fault
  | .ok (.builtin name) =>
    match catalogue name with
    | some program => .ok (program arguments vars)
    | none => .error .noAccess
  | .ok (.file content true _) =>
    match interpreterLine? content with
    | none => .error .notRunnable
    | some (interpreter, more) =>
      match runFault? tree interpreter, depth with
      | some fault, _ => .error fault
      | none, 0 => .error .linkLoop
      | none, depth + 1 =>
        load catalogue tree vars depth interpreter
          (interpreter :: more ++ path :: arguments.drop 1)
  | .ok _ => .error .noAccess

/-- How many interpreters may stand between a file and its program. -/
def interpreterDepth : Nat := 5

end Dialogue.Machine
