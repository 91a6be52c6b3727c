import Dialogue.Session.Basic

/-!
The log of a session as entries, one behind the other and each on lines of its own. How an entry is
ended and what a stream is called in its heading are said here by themselves, and what a session
writes is shown to be that.
-/

namespace Dialogue

/-- A text on whole lines: itself if a newline is its last character, and otherwise with one more. -/
def wholeLines (text : String) : String :=
  if ['\n'] <:+ text.toList then text else text ++ "\n"

/-- Entries as they stand in a log, one behind the other and each on whole lines. -/
def logged (entries : List String) : String :=
  String.join (entries.map wholeLines)

/-- A log that is empty or ends in a newline. -/
def Lined (log : String) : Prop :=
  log = "" ∨ log.toList.getLast? = some '\n'

/-- What a stream is called in a log. -/
def Stream.heading : Stream → String
  | .stdout => "stdout"
  | .stderr => "stderr"

/-- The entry for octets that were taken from a stream; there is none if there are no octets. -/
def Stream.entries (stream : Stream) (octets : Octets) : List String :=
  if octets = [] then [] else [s!"[{stream.heading}]\n{Text.shown octets}"]

-----------------------------------------------------------------------------------------
-- Lines
-----------------------------------------------------------------------------------------

/-- Entries one after the other are logged one after the other. -/
theorem logged_append (entries more : List String)
    : logged (entries ++ more) = logged entries ++ logged more := by
  rw [logged, List.map_append, String.join_append]
  rfl

/-- Without entries nothing is logged. -/
@[simp]
theorem logged_nil
    : logged [] = "" :=
  String.join_nil

/-- An entry is logged before those after it. -/
theorem logged_cons (text : String) (entries : List String)
    : logged (text :: entries) = wholeLines text ++ logged entries := by
  rw [logged, List.map_cons, String.join_cons]
  rfl

/-- A text on whole lines ends in a newline. -/
theorem getLast?_wholeLines (text : String)
    : (wholeLines text).toList.getLast? = some '\n' := by
  unfold wholeLines
  split
  · next ended => exact List.singleton_suffix_iff_getLast?_eq_some.mp ended
  · next _ =>
      rw [String.toList_append]
      exact List.getLast?_concat

/-- Logging leaves the lines of a log whole, by induction on the entries. -/
theorem Lined.append_logged {log : String} (lined : Lined log) (entries : List String)
    : Lined (log ++ logged entries) := by
  induction entries generalizing log with
  | nil => rwa [logged_nil, String.append_empty]
  | cons text entries ih =>
      rw [logged_cons, ← String.append_assoc]
      refine ih (.inr ?_)
      rw [String.toList_append, List.getLast?_append, getLast?_wholeLines]
      rfl

-----------------------------------------------------------------------------------------
-- What is logged in a session
-----------------------------------------------------------------------------------------

/-- A stream is called in headings what it is called in all reports. -/
theorem Stream.name_eq_heading (stream : Stream)
    : stream.name = stream.heading := by
  cases stream <;> rfl

namespace Session

/-- An entry is written on whole lines. -/
theorem entry_eq_wholeLines (text : String)
    : entry text = wholeLines text := by
  unfold entry wholeLines
  simp only [List.singleton_suffix_iff_getLast?_eq_some]

/-- An entry is logged behind the others. -/
theorem log_note (session : Session) (text : String)
    : (session.note text).log = session.log ++ logged [text] := by
  rw [logged_cons, logged_nil, String.append_empty, ← entry_eq_wholeLines]
  rfl

/-- What was taken is logged, if there was anything. -/
theorem log_noteTaken (session : Session) (stream : Stream) (octets : Octets)
    : (session.noteTaken stream octets).log = session.log ++ logged (stream.entries octets) := by
  unfold noteTaken Stream.entries
  rw [← Stream.name_eq_heading]
  split
  · rw [logged_nil, String.append_empty]
  · exact log_note ..

/-- What is put behind a stream is not logged. -/
@[simp]
theorem log_append (session : Session) (stream : Stream) (octets : Octets)
    : (session.append stream octets).log = session.log :=
  log_setPending ..

/-- Logging what was taken leaves the exit code alone. -/
theorem exitCode_noteTaken (session : Session) (stream : Stream) (octets : Octets)
    : (session.noteTaken stream octets).exitCode = session.exitCode := by
  unfold noteTaken
  split <;> rfl

end Session

end Dialogue
