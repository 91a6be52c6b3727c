import Dialogue.Proofs.Number.Measuring
import Dialogue.Proofs.Play.AfterWait
import Dialogue.Proofs.Session.Logging
import Dialogue.Proofs.Text.Decoding

/-!
The log of a play as a transcript. To what was logged before, a play adds what each step announces
and what satisfied it, in the order of the steps and up to the one at which it ends, and then how it
ended. Each entry stands on lines of its own, and an expected text stands there as it is.
-/

namespace Dialogue

-----------------------------------------------------------------------------------------
-- Entries
-----------------------------------------------------------------------------------------

/-- A text and the same text without the newlines at its end. -/
structure Bare (text bare : String) : Prop where
  split : ∃ count, text.toList = bare.toList ++ List.replicate count '\n'
  ends : bare.toList.getLast? ≠ some '\n'

namespace Step

/-- What a step announces before anything is read: its comment and its input. -/
def announced (step : Step) : List String :=
  (step.comment.map fun text => s!"# {text}").toList
    ++ (step.input.map fun text => s!"> {Exchange.withoutNewlines text}").toList

/-- The entry for what satisfies a step when so much has come on the streams. -/
def answered (step : Step) (come : Stream → Octets) : List String :=
  step.expectation.elim [] fun expectation =>
    expectation.stream.entries (expectation.takes expectation.stream (come expectation.stream))

end Step

/-- The entries for steps, in order: a step that is satisfied announces itself and shows what
satisfied it, the step that is not announces itself, and no other step is begun.
-/
def Exchange.transcript {σ : Type} [Peer σ] (limit : Option Duration) (number : Nat)
    (x : Exchange σ) : List Step → List String
  | [] => []
  | step :: rest =>
    let turn := x.takeStep limit number step
    match turn.verdict with
    | some _ => step.announced
    | none =>
      step.announced
        ++ (step.answered (x.session.come · (x.stepCalls limit number step))
          ++ turn.exchange.transcript limit (number + 1) rest)

/-- The entries with which a step ends that came to a verdict with these calls; there are none if it
was satisfied.
-/
inductive StepClosing (limit : Option Duration) (number : Nat) (step : Step) (calls : List Call)
    : Option Verdict → List String → Prop
  | satisfied : StepClosing limit number step calls none []
  | mismatch {stream : Stream} {expected actual : String}
    (expects : step.expectation = some ⟨stream, some expected⟩)
    : StepClosing limit number step calls (some (.mismatch number stream expected actual))
        [s!"[{stream.heading} mismatch at step {number}]",
          String.ofList (Difference.unified expected.toList actual.toList)]
  | timeout {stream : Stream} {expected received amount : String} {waited : Duration}
    (expects : step.expectation = some ⟨stream, some expected⟩)
    (last : calls.getLast? = some (.receive stream limit (.failed (.silence waited))))
    (tells : waited.Tells amount)
    : StepClosing limit number step calls (some (.timeout number stream expected received))
        [s!"[timeout after {amount} on {stream.heading}]"]
  | outputTimeout {stream : Stream} (expects : step.expectation = some ⟨stream, none⟩)
    : StepClosing limit number step calls (some (.timeout number stream "" "")) []
  | noOutput {stream : Stream} (expects : step.expectation = some ⟨stream, none⟩)
    : StepClosing limit number step calls (some (.noOutput number stream)) []
  | broken {cause : String} : StepClosing limit number step calls (some (.broken number cause)) []

/-- The entries with which a play ends that came out so with these calls. -/
inductive PlayClosing (limit : Option Duration) (steps : List Step) (calls : List Call)
    : Verdict → List String → Prop
  | stopped {before rest : List Step} {step : Step} {verdict : Verdict} {entries : List String}
    (split : steps = before ++ step :: rest)
    (closing : StepClosing limit (before.length + 1) step calls (some verdict) entries)
    : PlayClosing limit steps calls verdict entries
  | exited {code : Int} (waited : .wait (.ok (some code)) ∈ calls)
    : PlayClosing limit steps calls (.passed (some code)) [s!"[exit {code}]"]
  | killed (waited : .wait (.ok none) ∈ calls)
    : PlayClosing limit steps calls (.passed none) ["[exit signal]"]
  | unanswered {error : PeerError} (waited : .wait (.error error) ∈ calls)
    : PlayClosing limit steps calls (.broken steps.length error.message) []
  | unwaited {code : Option Int} (unwaited : ∀ answer, .wait answer ∉ calls)
    : PlayClosing limit steps calls (.passed code) []

/-- What holds of the log of a play. -/
structure Transcribed {σ : Type} [Peer σ] (limit : Option Duration) (steps : List Step)
    (x : Exchange σ) (verdict : Verdict) (final : Session) : Prop where
  /-- Behind what was logged before stand the entries for the steps and those for the end. -/
  logs
    : ∃ closing,
        PlayClosing limit steps (playCalls limit steps x) verdict closing
          ∧ final.log = x.session.log ++ logged (x.transcript limit 1 steps ++ closing)
  lined : Lined x.session.log → Lined final.log
  /-- A text that satisfied a step stands in its entry as it was expected. -/
  verbatim
    : ∀ {step : Step} {stream : Stream} {text : String},
        step ∈ steps
        → step.expectation = some ⟨stream, some text⟩
        → ∀ come,
            step.answered come = if text = "" then [] else [s!"[{stream.heading}]\n{text}"]
  /-- An input is announced without the newlines at its end. -/
  bare
    : ∀ {step : Step} {text : String},
        step ∈ steps → step.input = some text → Bare text (Exchange.withoutNewlines text)

-----------------------------------------------------------------------------------------
-- Inputs as they are announced
-----------------------------------------------------------------------------------------

/-- What is announced of an input is the input without the newlines at its end. -/
theorem Exchange.withoutNewlines_bare (text : String)
    : Bare text (withoutNewlines text) := by
  have kept : (withoutNewlines text).toList = text.toList.rdropWhile (· = '\n') :=
    String.toList_ofList
  refine ⟨?_, ?_⟩ <;> rw [kept]
  · exact exists_eq_rdropWhile_append_replicate '\n' text.toList
  · exact getLast?_rdropWhile_ne '\n' text.toList

-----------------------------------------------------------------------------------------
-- What is logged in a session
-----------------------------------------------------------------------------------------

namespace Session

/-- A text that is taken is logged. -/
theorem log_takeText (session : Session) (stream : Stream) (text : String)
    : (session.takeText stream text).log
      = session.log ++ logged (stream.entries (Text.octets text)) := by
  rw [takeText, log_noteTaken, consume, log_setPending]

/-- Whatever is taken is logged. -/
theorem log_takeAll (session : Session) (stream : Stream)
    : (session.takeAll stream).log
      = session.log ++ logged (stream.entries (session.pending stream)) := by
  rw [takeAll, log_noteTaken, log_setPending]

/-- A mismatch is logged under a heading. -/
theorem log_noteMismatch (session : Session) (number : Nat) (stream : Stream)
    (expected : String)
    : (session.noteMismatch number stream expected).log
      = session.log
        ++ logged [s!"[{stream.heading} mismatch at step {number}]",
            String.ofList (Difference.unified expected.toList
              (Text.shown (session.pending stream)).toList)] := by
  rw [noteMismatch, log_note, log_note, log_setPending, String.append_assoc, ← logged_append,
    Stream.name_eq_heading]
  rfl

/-- A step that is begun announces its comment and then its input. -/
theorem log_announced (session : Session) (step : Step)
    : (step.input.elim (session.noteComment step.comment)
          (session.noteComment step.comment).noteSent).log
      = session.log ++ logged step.announced := by
  have comment
      : (session.noteComment step.comment).log
        = session.log ++ logged (step.comment.map fun text => s!"# {text}").toList := by
    cases step.comment with
    | none => simp [noteComment]
    | some text => exact log_note ..
  rw [Step.announced, logged_append, ← String.append_assoc, ← comment]
  cases step.input with
  | none => simp
  | some text => exact log_note ..

/-- The end of the program is logged with its exit code. -/
theorem log_noteExit_some (session : Session) (code : Int)
    : (session.noteExit (some code)).log = session.log ++ logged [s!"[exit {code}]"] :=
  log_note ..

/-- The end by a signal is logged as such. -/
theorem log_noteExit_none (session : Session)
    : (session.noteExit none).log = session.log ++ logged ["[exit signal]"] :=
  log_note ..

end Session

-----------------------------------------------------------------------------------------
-- The entries of a step
-----------------------------------------------------------------------------------------

/-- Earlier calls make no difference to how a step ends. -/
theorem StepClosing.after {limit : Option Duration} {number : Nat} {step : Step}
    {calls : List Call} {verdict : Option Verdict} {entries : List String}
    (closing : StepClosing limit number step calls verdict entries) (earlier : List Call)
    : StepClosing limit number step (earlier ++ calls) verdict entries := by
  cases closing with
  | satisfied => exact .satisfied
  | mismatch expects => exact .mismatch expects
  | timeout expects last tells =>
      exact .timeout expects (by rw [List.getLast?_append, last]; rfl) tells
  | outputTimeout expects => exact .outputTimeout expects
  | noOutput expects => exact .noOutput expects
  | broken => exact .broken

/-- What is logged while a text is awaited: the text when it came, and otherwise how the wait ended.
Witness: induction on the reads, none of which is logged.
-/
theorem TextAwaited.logged_eq {number : Nat} {step : Step} {stream : Stream}
    {expected : String} {session final : Session} {answers : List Reception}
    {verdict : Option Verdict}
    (awaited : TextAwaited number stream expected session answers final verdict)
    (expects : step.expectation = some ⟨stream, some expected⟩) (limit : Option Duration)
    : ∃ closing,
        StepClosing limit number step (Call.reads stream limit answers) verdict closing
          ∧ final.log
              = session.log
                ++ logged ((if verdict = none then stream.entries (Text.octets expected) else [])
                  ++ closing) := by
  induction awaited with
  | met _ => exact ⟨[], .satisfied, by simpa using Session.log_takeText ..⟩
  | apart _ _ => exact ⟨_, .mismatch expects, Session.log_noteMismatch ..⟩
  | @chunk session _ octets _ _ _ _ ih =>
      -- A chunk is not logged when it comes, but as part of what is taken.
      obtain ⟨closing, ends, logs⟩ := ih
      rw [Session.log_append] at logs
      exact ⟨closing, ends.after [.receive stream limit (.chunk octets)], logs⟩
  | ended _ => exact ⟨_, .mismatch expects, Session.log_noteMismatch ..⟩
  | @silent session waited _ =>
      refine ⟨_, .timeout expects rfl waited.tells_text, ?_⟩
      rw [← Stream.name_eq_heading]
      exact Session.log_note ..
  | failed _ _ => exact ⟨[], .broken, by simp⟩

/-- What is logged while any output is awaited: whatever came, by cases on the rules. -/
theorem OutputAwaited.logged_eq {number : Nat} {step : Step} {stream : Stream}
    {session final : Session} {answers : List Reception} {verdict : Option Verdict}
    (awaited : OutputAwaited number stream session answers final verdict)
    (expects : step.expectation = some ⟨stream, none⟩) (limit : Option Duration)
    : ∃ closing,
        StepClosing limit number step (Call.reads stream limit answers) verdict closing
          ∧ final.log
              = session.log
                ++ logged ((if verdict = none then
                      stream.entries (session.pending stream ++ gathered answers)
                    else [])
                  ++ closing) := by
  cases awaited with
  | pending _ => exact ⟨[], .satisfied, by simpa using Session.log_takeAll ..⟩
  | @chunk octets _ =>
      exact ⟨[], .satisfied, by
        simpa using Session.log_takeAll (session.append stream octets) stream⟩
  | ended _ => exact ⟨[], .noOutput expects, by simp⟩
  | silent _ => exact ⟨[], .outputTimeout expects, by simp⟩
  | failed _ _ => exact ⟨[], .broken, by simp⟩

/-- What is logged while an expectation is awaited, by cases on the expectation. -/
theorem ExpectationAwaited.logged_eq {limit : Option Duration} {number : Nat} {step : Step}
    {session final : Session} {calls : List Call} {verdict : Option Verdict}
    (awaited : ExpectationAwaited limit number session step.expectation calls final verdict)
    : ∃ closing,
        StepClosing limit number step calls verdict closing
          ∧ final.log
              = session.log
                ++ logged ((if verdict = none then step.answered (session.come · calls) else [])
                  ++ closing) := by
  unfold Step.answered
  generalize expects : step.expectation = expectation at awaited
  cases awaited with
  | nothing => exact ⟨[], .satisfied, by simp⟩
  | text awaited => simpa [Expectation.takes] using awaited.logged_eq expects limit
  | output awaited =>
      simpa [Expectation.takes, Session.come] using awaited.logged_eq expects limit

/-- What is logged while a step is taken: what it announces, also when its input is not taken, then
what satisfied it, and then how it ended; by cases on the rules.
-/
theorem StepTaken.logged_eq {limit : Option Duration} {number : Nat} {step : Step}
    {session final : Session} {calls : List Call} {verdict : Option Verdict}
    (taken : StepTaken limit number step session calls final verdict)
    : ∃ closing,
        StepClosing limit number step calls verdict closing
          ∧ final.log
              = session.log
                ++ logged (step.announced
                  ++ ((if verdict = none then step.answered (session.come · calls) else [])
                    ++ closing)) := by
  have announced := session.log_announced step
  simp only [logged_append step.announced, ← String.append_assoc, ← announced]
  cases taken with
  | quiet input awaited =>
      rw [input]
      obtain ⟨closing, ends, logs⟩ := awaited.logged_eq
      refine ⟨closing, ends, ?_⟩
      simpa [Session.come] using logs
  | @sent text calls _ _ input awaited =>
      rw [input]
      obtain ⟨closing, ends, logs⟩ := awaited.logged_eq
      refine ⟨closing, ends.after [.send text (.ok ())], ?_⟩
      simpa [Session.come] using logs
  | refused input =>
      rw [input]
      exact ⟨[], .broken, by simp⟩

-----------------------------------------------------------------------------------------
-- The entries of a play
-----------------------------------------------------------------------------------------

variable {σ : Type} [Peer σ]

namespace Exchange

/-- The transcript of a step that comes to a verdict is what it announces. -/
theorem transcript_cons_some {limit : Option Duration} {number : Nat} {step : Step}
    {x : Exchange σ} {verdict : Verdict}
    (came : (x.takeStep limit number step).verdict = some verdict) (rest : List Step)
    : x.transcript limit number (step :: rest) = step.announced := by
  rw [transcript, came]

/-- The transcript of a step that is satisfied goes on with that of the others. -/
theorem transcript_cons_none {limit : Option Duration} {number : Nat} {step : Step}
    {x : Exchange σ} (came : (x.takeStep limit number step).verdict = none)
    (rest : List Step)
    : x.transcript limit number (step :: rest)
      = step.announced
        ++ (step.answered (x.session.come · (x.stepCalls limit number step))
          ++ (x.takeStep limit number step).exchange.transcript limit (number + 1) rest) := by
  rw [transcript, came]

/-- The transcript of satisfied steps goes on with that of the steps after them, by induction on the
satisfied ones.
-/
theorem transcript_append {limit : Option Duration} {number : Nat} {x : Exchange σ}
    {before : List Step} (satisfied : (x.takeSteps limit number before).verdict = none)
    (rest : List Step)
    : x.transcript limit number (before ++ rest)
      = x.transcript limit number before
        ++ (x.takeSteps limit number before).exchange.transcript limit (number + before.length)
            rest := by
  induction before generalizing number x with
  | nil => rfl
  | cons step before ih =>
      obtain ⟨came, others⟩ := satisfied_cons satisfied
      rw [List.cons_append, takeSteps_cons_none came, transcript_cons_none came,
        transcript_cons_none came, ih others, List.length_cons, Nat.add_assoc, Nat.add_comm 1,
        List.append_assoc, List.append_assoc]

/-- What is logged while satisfied steps are taken is their transcript, by induction on them. -/
theorem log_of_satisfied {limit : Option Duration} {number : Nat} {x : Exchange σ}
    {steps : List Step} (satisfied : (x.takeSteps limit number steps).verdict = none)
    : (x.takeSteps limit number steps).exchange.session.log
      = x.session.log ++ logged (x.transcript limit number steps) := by
  induction steps generalizing number x with
  | nil => simp [takeSteps, goOn, transcript]
  | cons step rest ih =>
      obtain ⟨came, others⟩ := satisfied_cons satisfied
      obtain ⟨closing, ends, logs⟩ := (x.stepCalls_taken limit number step).2.logged_eq
      rw [came] at ends logs
      cases ends
      rw [takeSteps_cons_none came, ih others, logs, transcript_cons_none came,
        String.append_assoc, ← logged_append, List.append_assoc, if_pos rfl, List.append_nil]

/-- What is logged while steps are taken of which one comes to a verdict is their transcript and
then how that step ended.
-/
theorem log_of_stopped {limit : Option Duration} {x : Exchange σ} {steps : List Step}
    {verdict : Verdict} (came : (x.takeSteps limit 1 steps).verdict = some verdict)
    : ∃ closing,
        PlayClosing limit steps (playCalls limit steps x) verdict closing
          ∧ (x.takeSteps limit 1 steps).exchange.session.log
              = x.session.log ++ logged (x.transcript limit 1 steps ++ closing) := by
  obtain ⟨before, step, rest, rfl, satisfied, stopped, made⟩ := playCalls_stopped_at came
  obtain ⟨closing, ends, logs⟩ := (stepCalls_taken limit (before.length + 1) step
    (x.takeSteps limit 1 before).exchange).2.logged_eq
  rw [stopped] at ends logs
  refine ⟨closing, .stopped rfl (made ▸ ends.after _), ?_⟩
  rw [takeSteps_append satisfied, transcript_append satisfied, Nat.add_comm 1,
    takeSteps_cons_some stopped, transcript_cons_some stopped, logs, log_of_satisfied satisfied,
    String.append_assoc, ← logged_append, List.append_assoc, if_neg (Option.some_ne_none _),
    List.nil_append]

end Exchange

/-- What is logged when the end was waited for is the exit code, if the wait told it; what is
gathered then is not logged. By cases on the rules.
-/
theorem Closed.logged_eq {limit : Option Duration} {steps : List Step}
    {session final : Session} {calls more : List Call} {verdict : Option Verdict}
    (closed : Closed limit steps.length session more final verdict)
    (made : ∀ answer, .wait answer ∈ more → .wait answer ∈ calls)
    : ∃ closing,
        PlayClosing limit steps calls (verdict.getD (.passed final.exitCode)) closing
          ∧ final.log = session.log ++ logged closing := by
  cases closed with
  | refused =>
      exact ⟨[], .unanswered (made _ List.mem_cons_self), by simp⟩
  | @gathered code middle final out err stdout stderr =>
      have exited : final.exitCode = code := by
        rw [stderr.exitCode_eq, stdout.exitCode_eq]
        rfl
      rw [stderr.log_eq, stdout.log_eq, Option.getD_none, exited]
      cases code with
      | none => exact ⟨_, .killed (made _ List.mem_cons_self), session.log_noteExit_none⟩
      | some code =>
          exact ⟨_, .exited (made _ List.mem_cons_self), session.log_noteExit_some code⟩

/-- What is logged during a play is the transcript of its steps and then how it ended, by cases on
whether a step came to a verdict and whether the end was waited for.
-/
theorem playSteps_logs (limit : Option Duration) (steps : List Step) (x : Exchange σ)
    : ∃ closing,
        PlayClosing limit steps (playCalls limit steps x) (playSteps limit steps x).1 closing
          ∧ (playSteps limit steps x).2.session.log
              = x.session.log ++ logged (x.transcript limit 1 steps ++ closing) := by
  cases came : (x.takeSteps limit 1 steps).verdict with
  | some verdict =>
      rw [playSteps_of_stopped came]
      exact Exchange.log_of_stopped came
  | none =>
      have told := Exchange.log_of_satisfied came
      cases closes : Step.closesLast steps with
      | false =>
          have unwaited := (x.stepsCalls_taken limit 1 steps).2.wait_not_mem
          rw [playSteps_of_open came closes, playCalls_of_open came closes]
          exact ⟨[], .unwaited unwaited, by rw [List.append_nil, told]⟩
      | true =>
          have closed := ((x.takeSteps limit 1 steps).exchange.closeCalls_closed limit
            steps.length).2
          rw [playSteps_of_closed came closes, playCalls_of_closed came closes]
          obtain ⟨closing, ends, logs⟩ :=
            closed.logged_eq fun answer => List.mem_append_right (x.stepsCalls limit 1 steps)
          exact ⟨closing, ends, by rw [logs, told, String.append_assoc, ← logged_append]⟩

/-- The octets of a text are none only if the text is empty. -/
theorem Text.octets_eq_nil {text : String}
    : Text.octets text = [] ↔ text = "" := by
  constructor
  · intro none
    rw [← Text.shown_octets text, none]
    rfl
  · rintro rfl
    rfl

/-- A text that satisfied a step stands in its entry as it was expected. Witness: its octets are
read as the text again, and only they are taken, whatever stands behind them.
-/
theorem Step.answered_text {step : Step} {stream : Stream} {text : String}
    (expects : step.expectation = some ⟨stream, some text⟩) (come : Stream → Octets)
    : step.answered come = if text = "" then [] else [s!"[{stream.heading}]\n{text}"] := by
  simp only [answered, expects, Option.elim_some, Stream.entries, Expectation.takes, if_true,
    Text.octets_eq_nil, Text.shown_octets]

/-- The log of a play is what was logged before, then the transcript of the steps that were reached,
in order, and then how the play ended; with any peer, whatever it answers.
-/
theorem play_transcribed (limit : Option Duration) (scenario : Scenario) (x : Exchange σ)
    : Transcribed limit scenario.steps x (play limit scenario x).1
        (play limit scenario x).2.session where
  logs := playSteps_logs limit scenario.steps x
  lined lined := by
    obtain ⟨closing, -, logs⟩ := playSteps_logs limit scenario.steps x
    rw [play, logs]
    exact lined.append_logged _
  verbatim _ expects := Step.answered_text expects
  bare {_ text} _ _ := Exchange.withoutNewlines_bare text

end Dialogue
