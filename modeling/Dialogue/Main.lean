import Dialogue.CommandLine.Reply
import Dialogue.Machine.Standard

/-!
The program itself. Its runs are made on the standard machine, which finds the files under the
current directory as they are when the program starts.
-/

namespace Dialogue.CommandLine

/-- Whether a file can be run: it names the program that interprets it. -/
def isRunnable (content : Octets) : Bool := content.take 2 = [0x23, 0x21]

/-- The node of an entry of a directory, with what is in it to the given depth. What cannot be read
is an empty file. -/
def nodeOfEntry : Nat → IO.FS.DirEntry → IO Node
  | 0, _ => return .folder .none
  | depth + 1, entry => do
    try
      match (← entry.path.symlinkMetadata).type with
      | .file =>
        let content := (← IO.FS.readBinFile entry.path).toList
        return .file content (isRunnable content) 0
      | .symlink =>
        return .link (Path.ofText (← IO.FS.realPath entry.path).toString)
      | .dir =>
        let nodes ← (← entry.path.readDir).toList.mapM fun inner => do
          return (Path.ofText inner.fileName, ← nodeOfEntry depth inner)
        return .folder (nodes.foldr (fun (name, node) rest => .entry name node rest) .none)
      | .other => return .file [] false 0
    catch _ => return .file [] false 0

/-- How deep directories are read. -/
def deepest : Nat := 64

/-- The standard machine with the files under the current directory, and the path of that
directory. -/
def currentStation : IO (Machine.Station × Path) := do
  let directory ← IO.currentDir
  let home := Path.ofText directory.toString
  let empty := Machine.standardTree.makeFolders home
  let tree ← (← directory.readDir).foldlM
    (fun tree entry => do
      let place := Path.join home (Path.ofText entry.fileName)
      return (tree.put place (← nodeOfEntry deepest entry)).toOption.getD tree)
    empty
  return ({ tree := (tree.enter home).toOption.getD tree }, home)

/-- The variables of the environment that settings are made from. -/
def currentEnvironment : IO Environment :=
  [Settings.verboseVariable, Settings.timeoutVariable].filterMapM fun name => do
    return (← IO.getEnv name).map (name, ·)

end Dialogue.CommandLine

open Dialogue.CommandLine in
/-- Does what the command line asks for, writes the reply and ends with its status. -/
def main (arguments : List String) : IO UInt32 := do
  let started ← IO.monoMsNow
  let environment ← currentEnvironment
  let (station, home) ← currentStation
  let (outcome, _) := perform arguments environment home (station.withEnvironment environment)
  let reply := outcome.reply ((← IO.monoMsNow) - started)
  IO.print reply.stdout
  IO.eprint reply.stderr
  return reply.status.toUInt32
