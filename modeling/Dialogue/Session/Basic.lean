import Dialogue.Scenario.Basic
import Dialogue.Text.Octets

/-!
The session of a dialogue: what has come on each stream and is not yet matched, the exit code of
the program, and the log. The streams are two queues that know nothing of each other; the log only
grows.
-/

namespace Dialogue

/-- What is remembered while a scenario is played. -/
structure Session where
  /-- What has come on stdout and is not yet taken. -/
  stdout : Octets := []
  /-- What has come on stderr and is not yet taken. -/
  stderr : Octets := []
  /-- The exit code, once the program has ended with one. -/
  exitCode : Option Int := none
  /-- What has happened, for a reader. -/
  log : String := ""
deriving Repr, DecidableEq

namespace Session

/-- What has come on a stream and is not yet taken. -/
def pending (session : Session) : Stream → Octets
  | .stdout => session.stdout
  | .stderr => session.stderr

/-- A session with other octets pending on a stream. -/
def setPending (session : Session) (stream : Stream) (octets : Octets) : Session :=
  match stream with
  | .stdout => { session with stdout := octets }
  | .stderr => { session with stderr := octets }

/-- Puts octets behind what is pending on a stream. -/
def append (session : Session) (stream : Stream) (octets : Octets) : Session :=
  session.setPending stream (session.pending stream ++ octets)

/-- Takes the first octets of a stream, or all if there are fewer. -/
def consume (session : Session) (stream : Stream) (count : Nat) : Octets × Session :=
  let octets := session.pending stream
  (octets.take count, session.setPending stream (octets.drop count))

/-- Takes everything that is pending on a stream. -/
def take (session : Session) (stream : Stream) : Octets × Session :=
  (session.pending stream, session.setPending stream [])

/-- A log entry as it is written: with a newline at its end, which is added if it is not there. -/
def entry (text : String) : String :=
  if text.toList.getLast? = some '\n' then text else text ++ "\n"

/-- Writes an entry to the log. -/
def note (session : Session) (text : String) : Session :=
  { session with log := session.log ++ entry text }

/-- Writes what was taken from a stream to the log, under the stream's name; nothing if nothing
was taken. -/
def noteTaken (session : Session) (stream : Stream) (octets : Octets) : Session :=
  if octets = [] then session else session.note s!"[{stream.name}]\n{Text.shown octets}"

/-- What is set on a stream is pending there. -/
@[simp]
theorem pending_setPending (session : Session) (stream : Stream) (octets : Octets)
    : (session.setPending stream octets).pending stream = octets := by
  cases stream <;> rfl

/-- Setting one stream leaves the other alone. -/
@[simp]
theorem pending_other_setPending (session : Session) (stream : Stream) (octets : Octets)
    : (session.setPending stream octets).pending stream.other = session.pending stream.other := by
  cases stream <;> rfl

/-- Setting a stream logs nothing. -/
@[simp]
theorem log_setPending (session : Session) (stream : Stream) (octets : Octets)
    : (session.setPending stream octets).log = session.log := by
  cases stream <;> rfl

/-- Setting a stream leaves the exit code alone. -/
@[simp]
theorem exitCode_setPending (session : Session) (stream : Stream) (octets : Octets)
    : (session.setPending stream octets).exitCode = session.exitCode := by
  cases stream <;> rfl

/-- Setting a stream leaves every other one alone. -/
theorem pending_setPending_of_ne {stream asked : Stream} (ne : asked ≠ stream)
    (session : Session) (octets : Octets)
    : (session.setPending stream octets).pending asked = session.pending asked := by
  cases stream <;> cases asked <;> first | rfl | exact absurd rfl ne

/-- What is put behind a stream is pending there after what was. -/
@[simp]
theorem pending_append (session : Session) (stream : Stream) (octets : Octets)
    : (session.append stream octets).pending stream = session.pending stream ++ octets :=
  pending_setPending ..

/-- Putting octets behind a stream leaves every other one alone. -/
theorem pending_append_of_ne {stream asked : Stream} (ne : asked ≠ stream)
    (session : Session) (octets : Octets)
    : (session.append stream octets).pending asked = session.pending asked :=
  pending_setPending_of_ne ne ..

/-- An entry of the log takes nothing from a stream. -/
@[simp]
theorem pending_note (session : Session) (text : String) (stream : Stream)
    : (session.note text).pending stream = session.pending stream := by
  cases stream <;> rfl

/-- Logging what was taken takes nothing more. -/
@[simp]
theorem pending_noteTaken (session : Session) (stream asked : Stream) (octets : Octets)
    : (session.noteTaken stream octets).pending asked = session.pending asked := by
  unfold noteTaken
  split
  · rfl
  · exact pending_note ..

end Session

end Dialogue
