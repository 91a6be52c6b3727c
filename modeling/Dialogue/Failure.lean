import Dialogue.Artifact.Search
import Dialogue.Peer.Basic
import Dialogue.Scenario.Reading

/-!
Failures: everything that ends a run before there is a verdict, with the text and the status under
which it is reported.
-/

namespace Dialogue

/-- The kinds of failure. -/
inductive FailureKind
  /-- There is no build output. -/
  | targetNotFound
  /-- There is no artifact of the entry. -/
  | entryNotFound
  /-- There is no scenario file. -/
  | scriptNotFound
  /-- The scenario uses a reserved directive. -/
  | unsupportedDirective
  /-- The program could not be started. -/
  | process
  /-- The build output could not be searched. -/
  | search
  /-- The scenario file could not be read. -/
  | scriptUnreadable
deriving Repr, DecidableEq

/-- The status with which a run that failed ends. -/
def FailureKind.status : FailureKind → Int
  | .targetNotFound => 1
  | .entryNotFound => 2
  | .scriptNotFound => 3
  | .unsupportedDirective => 5
  | .process => -1
  | .search => -1
  | .scriptUnreadable => -2

/-- A failure, with the file and the line that it is about, where it is about one. -/
structure Failure where
  kind : FailureKind
  message : String
  file : Option String := none
  line : Option Nat := none
deriving Repr, DecidableEq

namespace Failure

/-- A failure in a file. -/
def inFile (failure : Failure) (file : String) : Failure :=
  { failure with file := some file }

/-- A failure at a line of a file. -/
def atLine (failure : Failure) (file : String) (line : Nat) : Failure :=
  { failure with file := some file, line := some line }

/-- The failure to read a scenario file. -/
def ofScriptFault (path : Path) (fault : Fault) : Failure :=
  if fault.isNotFound then
    { kind := .scriptNotFound, message := "no test file found", file := some (Path.text path) }
  else
    { kind := .scriptUnreadable, message := fault.message, file := some (Path.text path) }

/-- The failure to locate an artifact. -/
def ofLocateError (e : Artifact.LocateError) : Failure :=
  let kind :=
    match e with
    | .rootMissing _ => .targetNotFound
    | .notFound .. => .entryNotFound
    | .refused .. => .search
  { kind, message := e.message }

/-- The failure of a scenario that uses a reserved directive. -/
def ofReserved (e : ReservedDirective) : Failure :=
  { kind := .unsupportedDirective, message := e.complaint, line := some e.line }

/-- The failure of a peer before the play. -/
def ofPeerError (e : PeerError) : Failure :=
  { kind := .process, message := e.message }

/-- The text of a failure: the file and the line it is about, then the message. -/
def text (failure : Failure) : String :=
  let file := (failure.file.map (· ++ ":")).getD ""
  let line := (failure.line.map fun n => s!"{n}:").getD ""
  let gap := if failure.file.isSome || failure.line.isSome then " " else ""
  file ++ line ++ gap ++ failure.message

/-- The status of a failure. -/
def status (failure : Failure) : Int := failure.kind.status

end Failure

end Dialogue
