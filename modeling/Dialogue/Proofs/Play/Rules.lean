import Dialogue.Proofs.Play.Answered
import Dialogue.Session.Play

/-!
The rules of a play, as relations between the session before, the calls on the peer with their
answers, the session after and the verdict, if there is one. Each function of a play follows its
rules, and the rules leave no choice once the answers are known.
-/

namespace Dialogue

-----------------------------------------------------------------------------------------
-- What is done to a session
-----------------------------------------------------------------------------------------

/-- Octets that may still become what is wanted: they begin it and are not yet all of it. -/
structure Undecided (wanted pending : Octets) : Prop where
  unmet : ¬ wanted <+: pending
  begins : pending <+: wanted

namespace Session

/-- A session in which an expected text has come, is taken and logged. -/
def takeText (session : Session) (stream : Stream) (text : String) : Session :=
  (session.consume stream (Text.octets text).length).2.noteTaken stream (Text.octets text)

/-- A session in which everything pending on a stream is taken and logged. -/
def takeAll (session : Session) (stream : Stream) : Session :=
  (session.setPending stream []).noteTaken stream (session.pending stream)

/-- A session in which everything pending on a stream is taken, and logged as a mismatch. -/
def noteMismatch (session : Session) (number : Nat) (stream : Stream) (expected : String)
    : Session :=
  let actual := Text.shown (session.pending stream)
  ((session.setPending stream []).note s!"[{stream.name} mismatch at step {number}]").note
    (String.ofList (Difference.unified expected.toList actual.toList))

/-- A session in which the comment of a step is logged, if it has one. -/
def noteComment (session : Session) : Option String → Session
  | none => session
  | some text => session.note s!"# {text}"

/-- A session in which the sending of a text is logged. -/
def noteSent (session : Session) (text : String) : Session :=
  session.note s!"> {Exchange.withoutNewlines text}"

/-- A session in which the end of the program is known and logged. -/
def noteExit (session : Session) (code : Option Int) : Session :=
  { session with exitCode := code }.note s!"[exit {Exchange.exitText code}]"

/-- A text that has come is taken from the front. -/
theorem pending_takeText {session : Session} {stream : Stream} {text : String}
    (begins : Text.octets text <+: session.pending stream)
    : session.pending stream
      = Text.octets text ++ (session.takeText stream text).pending stream := by
  rw [takeText, pending_noteTaken, consume, pending_setPending]
  exact (List.prefix_iff_eq_append.mp begins).symm

/-- Taking a text leaves every other stream alone. -/
theorem pending_takeText_of_ne {stream asked : Stream} (ne : asked ≠ stream)
    (session : Session) (text : String)
    : (session.takeText stream text).pending asked = session.pending asked := by
  rw [takeText, pending_noteTaken, consume, pending_setPending_of_ne ne]

/-- Nothing is pending where everything was taken. -/
@[simp]
theorem pending_takeAll (session : Session) (stream : Stream)
    : (session.takeAll stream).pending stream = [] := by
  rw [takeAll, pending_noteTaken, pending_setPending]

/-- Taking everything leaves every other stream alone. -/
theorem pending_takeAll_of_ne {stream asked : Stream} (ne : asked ≠ stream)
    (session : Session)
    : (session.takeAll stream).pending asked = session.pending asked := by
  rw [takeAll, pending_noteTaken, pending_setPending_of_ne ne]

/-- Nothing is pending where a mismatch was noted. -/
@[simp]
theorem pending_noteMismatch (session : Session) (number : Nat) (stream : Stream)
    (expected : String)
    : (session.noteMismatch number stream expected).pending stream = [] := by
  rw [noteMismatch, pending_note, pending_note, pending_setPending]

/-- Noting a mismatch leaves every other stream alone. -/
theorem pending_noteMismatch_of_ne {stream asked : Stream} (ne : asked ≠ stream)
    (session : Session) (number : Nat) (expected : String)
    : (session.noteMismatch number stream expected).pending asked = session.pending asked := by
  rw [noteMismatch, pending_note, pending_note, pending_setPending_of_ne ne]

/-- Noting a comment takes nothing. -/
@[simp]
theorem pending_noteComment (session : Session) (comment : Option String) (stream : Stream)
    : (session.noteComment comment).pending stream = session.pending stream := by
  cases comment with
  | none => rfl
  | some text => exact pending_note ..

/-- Noting what was sent takes nothing. -/
@[simp]
theorem pending_noteSent (session : Session) (text : String) (stream : Stream)
    : (session.noteSent text).pending stream = session.pending stream :=
  pending_note ..

/-- Noting the end of the program takes nothing. -/
@[simp]
theorem pending_noteExit (session : Session) (code : Option Int) (stream : Stream)
    : (session.noteExit code).pending stream = session.pending stream := by
  cases stream <;> rfl

end Session

-----------------------------------------------------------------------------------------
-- The rules
-----------------------------------------------------------------------------------------

/-- How a text is awaited. A read is made only while the text is undecided, and the first answer
that is no chunk ends the wait.
-/
inductive TextAwaited (number : Nat) (stream : Stream) (expected : String)
    : Session → List Reception → Session → Option Verdict → Prop
  | met {session : Session} (begins : Text.octets expected <+: session.pending stream)
    : TextAwaited number stream expected session [] (session.takeText stream expected) none
  | apart {session : Session} (unmet : ¬ Text.octets expected <+: session.pending stream)
    (differs : ¬ session.pending stream <+: Text.octets expected)
    : TextAwaited number stream expected session [] (session.noteMismatch number stream expected)
        (some (.mismatch number stream expected (Text.shown (session.pending stream))))
  | chunk {session final : Session} {octets : Octets} {answers : List Reception}
    {verdict : Option Verdict}
    (undecided : Undecided (Text.octets expected) (session.pending stream))
    (rest : TextAwaited number stream expected (session.append stream octets) answers final
      verdict)
    : TextAwaited number stream expected session (.chunk octets :: answers) final verdict
  | ended {session : Session}
    (undecided : Undecided (Text.octets expected) (session.pending stream))
    : TextAwaited number stream expected session [.ended]
        (session.noteMismatch number stream expected)
        (some (.mismatch number stream expected (Text.shown (session.pending stream))))
  | silent {session : Session} {waited : Duration}
    (undecided : Undecided (Text.octets expected) (session.pending stream))
    : TextAwaited number stream expected session [.failed (.silence waited)]
        (session.note s!"[timeout after {waited.text} on {stream.name}]")
        (some (.timeout number stream expected (Text.shown (session.pending stream))))
  | failed {session : Session} {error : PeerError}
    (undecided : Undecided (Text.octets expected) (session.pending stream))
    (loud : ∀ waited, error ≠ .silence waited)
    : TextAwaited number stream expected session [.failed error] session
        (some (.broken number error.message))

/-- How any output is awaited: one read is made, and only if nothing is pending. -/
inductive OutputAwaited (number : Nat) (stream : Stream)
    : Session → List Reception → Session → Option Verdict → Prop
  | pending {session : Session} (some : session.pending stream ≠ [])
    : OutputAwaited number stream session [] (session.takeAll stream) none
  | chunk {session : Session} {octets : Octets} (empty : session.pending stream = [])
    : OutputAwaited number stream session [.chunk octets]
        ((session.append stream octets).takeAll stream) none
  | ended {session : Session} (empty : session.pending stream = [])
    : OutputAwaited number stream session [.ended] session (some (.noOutput number stream))
  | silent {session : Session} {waited : Duration} (empty : session.pending stream = [])
    : OutputAwaited number stream session [.failed (.silence waited)] session
        (some (.timeout number stream "" ""))
  | failed {session : Session} {error : PeerError} (empty : session.pending stream = [])
    (loud : ∀ waited, error ≠ .silence waited)
    : OutputAwaited number stream session [.failed error] session
        (some (.broken number error.message))

/-- The reads of a stream that got these answers. -/
def Call.reads (stream : Stream) (limit : Option Duration) (answers : List Reception)
    : List Call :=
  answers.map (.receive stream limit)

/-- How what a step expects is awaited. -/
inductive ExpectationAwaited (limit : Option Duration) (number : Nat) (session : Session)
    : Option Expectation → List Call → Session → Option Verdict → Prop
  | nothing : ExpectationAwaited limit number session none [] session none
  | text {stream : Stream} {expected : String} {answers : List Reception} {final : Session}
    {verdict : Option Verdict}
    (awaited : TextAwaited number stream expected session answers final verdict)
    : ExpectationAwaited limit number session (some ⟨stream, some expected⟩)
        (Call.reads stream limit answers) final verdict
  | output {stream : Stream} {answers : List Reception} {final : Session}
    {verdict : Option Verdict}
    (awaited : OutputAwaited number stream session answers final verdict)
    : ExpectationAwaited limit number session (some ⟨stream, none⟩)
        (Call.reads stream limit answers) final verdict

/-- How a step is taken: its input is sent, and unless that fails its expectation is awaited. -/
inductive StepTaken (limit : Option Duration) (number : Nat) (step : Step) (session : Session)
    : List Call → Session → Option Verdict → Prop
  | quiet {calls : List Call} {final : Session} {verdict : Option Verdict}
    (input : step.input = none)
    (awaited : ExpectationAwaited limit number (session.noteComment step.comment)
      step.expectation calls final verdict)
    : StepTaken limit number step session calls final verdict
  | sent {text : String} {calls : List Call} {final : Session} {verdict : Option Verdict}
    (input : step.input = some text)
    (awaited : ExpectationAwaited limit number
      ((session.noteComment step.comment).noteSent text) step.expectation calls final verdict)
    : StepTaken limit number step session (.send text (.ok ()) :: calls) final verdict
  | refused {text : String} {error : PeerError} (input : step.input = some text)
    : StepTaken limit number step session [.send text (.error error)]
        ((session.noteComment step.comment).noteSent text)
        (some (.broken number error.message))

/-- How steps are taken, the first of which has the given number: in order, until one of them
comes to a verdict.
-/
inductive StepsTaken (limit : Option Duration)
    : Nat → List Step → Session → List Call → Session → Option Verdict → Prop
  | done {number : Nat} {session : Session}
    : StepsTaken limit number [] session [] session none
  | stopped {number : Nat} {step : Step} {rest : List Step} {session final : Session}
    {calls : List Call} {verdict : Verdict}
    (taken : StepTaken limit number step session calls final (some verdict))
    : StepsTaken limit number (step :: rest) session calls final (some verdict)
  | satisfied {number : Nat} {step : Step} {rest : List Step}
    {session middle final : Session} {calls more : List Call} {verdict : Option Verdict}
    (taken : StepTaken limit number step session calls middle none)
    (later : StepsTaken limit (number + 1) rest middle more final verdict)
    : StepsTaken limit number (step :: rest) session (calls ++ more) final verdict

/-- How a stream is gathered: chunk by chunk, until an answer is none. -/
inductive Gathered (stream : Stream) : Session → List Reception → Session → Prop
  | chunk {session final : Session} {octets : Octets} {answers : List Reception}
    (rest : Gathered stream (session.append stream octets) answers final)
    : Gathered stream session (.chunk octets :: answers) final
  | ended {session : Session} : Gathered stream session [.ended] session
  | failed {session : Session} {error : PeerError}
    : Gathered stream session [.failed error] session

/-- How the end of the program is waited for, and what it still says gathered. -/
inductive Closed (limit : Option Duration) (number : Nat) (session : Session)
    : List Call → Session → Option Verdict → Prop
  | refused {error : PeerError}
    : Closed limit number session [.wait (.error error)] session
        (some (.broken number error.message))
  | gathered {code : Option Int} {middle final : Session} {out err : List Reception}
    (stdout : Gathered .stdout (session.noteExit code) out middle)
    (stderr : Gathered .stderr middle err final)
    : Closed limit number session
        (.wait (.ok code) :: (Call.reads .stdout (some (Exchange.graceOf limit)) out
          ++ Call.reads .stderr (some (Exchange.graceOf limit)) err))
        final none

/-- How steps are played. -/
inductive Played (limit : Option Duration) (steps : List Step) (session : Session)
    : List Call → Session → Verdict → Prop
  | stopped {calls : List Call} {final : Session} {verdict : Verdict}
    (taken : StepsTaken limit 1 steps session calls final (some verdict))
    : Played limit steps session calls final verdict
  | passed {calls : List Call} {final : Session}
    (taken : StepsTaken limit 1 steps session calls final none)
    (goesOn : Step.closesLast steps = false)
    : Played limit steps session calls final (.passed final.exitCode)
  | closed {calls more : List Call} {middle final : Session} {verdict : Option Verdict}
    (taken : StepsTaken limit 1 steps session calls middle none)
    (closes : Step.closesLast steps = true)
    (closed : Closed limit steps.length middle more final verdict)
    : Played limit steps session (calls ++ more) final
        (verdict.getD (.passed final.exitCode))

end Dialogue
