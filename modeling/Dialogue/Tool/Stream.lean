import Dialogue.Machine.Program
import Dialogue.Text.Latin

/-!
Reading and writing of programs: characters as octets, whole inputs, and output block by block.
-/

namespace Dialogue.Tool

/-- How many reads a program makes at most. -/
def mostReads : Nat := 1000000

/-- How many octets a program reads at once. -/
def blockSize : Nat := 131072

/-- How many octets a program gathers before it writes them. -/
def bufferSize : Nat := 4096

/-- Writes characters, and goes on in any case. -/
def say (descriptor : Nat) (text : Chars) (next : Unit → Program) : Program :=
  .emit descriptor (Text.toOctets text) next

/-- Complains under the name of a program. -/
def complain (name text : Chars) (next : Unit → Program) : Program :=
  say 2 (name ++ Text.spell ": " ++ text ++ ['\n']) next

/-- Ends with the complaint that nothing can be written. -/
def writeFault (name : Chars) (fault : Fault) : Program :=
  complain name (Text.spell s!"write error: {fault.systemText}") fun _ => .exit 1

/-- Writes octets block by block, or ends with a complaint. The first argument bounds the blocks. -/
def printBlocks (name : Chars) : Nat → Octets → (Unit → Program) → Program
  | 0, _, next => next ()
  | bound + 1, octets, next =>
    if octets = [] then next ()
    else
      .write 1 (octets.take bufferSize) fun
        | .error fault => writeFault name fault
        | .ok _ => printBlocks name bound (octets.drop bufferSize) next

/-- Writes characters, or ends with a complaint. -/
def print (name text : Chars) (next : Unit → Program) : Program :=
  printBlocks name text.length (Text.toOctets text) next

/-- Reads all of a descriptor. -/
def readAll (descriptor : Nat) : Nat → Octets → (Except Fault Octets → Program) → Program
  | 0, before, next => next (.ok before)
  | reads + 1, before, next =>
    .read descriptor blockSize fun
      | .error fault => next (.error fault)
      | .ok [] => next (.ok before)
      | .ok octets => readAll descriptor reads (before ++ octets) next

/-- The complaint of a program that points to its help. -/
def askForHelp (name text : Chars) : Program :=
  complain name text fun _ =>
    say 2 (Text.spell "Try '" ++ name ++ Text.spell " --help' for more information.\n") fun _ =>
      .exit 1

end Dialogue.Tool
