import Dialogue.Proofs.Play.AfterWait
import Dialogue.Proofs.Session.Logging

/-!
The exit code that a play reports. A play that closes reports the answer to its own wait. One that
does not close makes no wait; it reports the code that the session has, which is the answer to the
last wait of the plays before it.
-/

namespace Dialogue

-----------------------------------------------------------------------------------------
-- The exits that calls tell
-----------------------------------------------------------------------------------------

/-- The exit that a call tells, if it waited for the end of the program and was answered. -/
def Call.exit? : Call → Option (Option Int)
  | .wait (.ok code) => some code
  | _ => none

/-- The exits that calls tell, in order. -/
def exits (calls : List Call) : List (Option Int) :=
  calls.filterMap Call.exit?

/-- The last exit that calls tell, or the one known before them if they tell none. -/
def lastExit (known : Option Int) (calls : List Call) : Option Int :=
  (exits calls).getLast?.getD known

/-- Where the exit code is from that a play reports when it passes: from its own wait, the only one
it made, if it closes; and otherwise it made none, and the code is the one known before.
-/
inductive ExitReported (steps : List Step) (known : Option Int) (own : List Call)
    (code : Option Int) : Prop
  | waited (closes : Step.closesLast steps = true) (told : exits own = [code])
    : ExitReported steps known own code
  | carried (goesOn : Step.closesLast steps = false) (silent : exits own = [])
    (same : code = known)
    : ExitReported steps known own code

/-- Calls tell their exits one after the other. -/
theorem exits_append (calls more : List Call)
    : exits (calls ++ more) = exits calls ++ exits more :=
  List.filterMap_append

/-- Calls that do not wait tell no exit. -/
theorem exits_eq_nil {calls : List Call} (unwaited : ∀ answer, .wait answer ∉ calls)
    : exits calls = [] := by
  refine List.filterMap_eq_nil_iff.mpr ?_
  intro call made
  cases call with
  | send _ _ => rfl
  | receive _ _ _ => rfl
  | wait answer => exact absurd made (unwaited answer)

/-- Calls that tell no exit leave the one known before. -/
theorem lastExit_of_exits_eq_nil {known : Option Int} {calls : List Call}
    (silent : exits calls = [])
    : lastExit known calls = known := by
  rw [lastExit, silent]
  rfl

/-- What is known after calls is known before those that follow. -/
theorem lastExit_append (known : Option Int) (calls more : List Call)
    : lastExit known (calls ++ more) = lastExit (lastExit known calls) more := by
  unfold lastExit
  rw [exits_append, List.getLast?_append]
  cases (exits more).getLast? <;> rfl

-----------------------------------------------------------------------------------------
-- The exit code of the session
-----------------------------------------------------------------------------------------

section Rules

variable {limit : Option Duration} {number : Nat} {session final : Session}

/-- Taking a text leaves the exit code alone. -/
theorem Session.exitCode_takeText (session : Session) (stream : Stream) (text : String)
    : (session.takeText stream text).exitCode = session.exitCode := by
  rw [takeText, exitCode_noteTaken, consume, exitCode_setPending]

/-- Taking everything leaves the exit code alone. -/
theorem Session.exitCode_takeAll (session : Session) (stream : Stream)
    : (session.takeAll stream).exitCode = session.exitCode := by
  rw [takeAll, exitCode_noteTaken, exitCode_setPending]

/-- Noting a mismatch leaves the exit code alone. -/
theorem Session.exitCode_noteMismatch (session : Session) (number : Nat) (stream : Stream)
    (expected : String)
    : (session.noteMismatch number stream expected).exitCode = session.exitCode :=
  session.exitCode_setPending stream []

/-- Noting a comment leaves the exit code alone. -/
theorem Session.exitCode_noteComment (session : Session) (comment : Option String)
    : (session.noteComment comment).exitCode = session.exitCode := by
  cases comment <;> rfl

/-- Awaiting a text leaves the exit code alone, by induction on the reads. -/
theorem TextAwaited.exitCode_eq {stream : Stream} {expected : String}
    {answers : List Reception} {verdict : Option Verdict}
    (awaited : TextAwaited number stream expected session answers final verdict)
    : final.exitCode = session.exitCode := by
  induction awaited with
  | met _ => exact Session.exitCode_takeText ..
  | apart _ _ => exact Session.exitCode_noteMismatch ..
  | chunk _ _ ih => exact ih.trans (Session.exitCode_setPending ..)
  | ended _ => exact Session.exitCode_noteMismatch ..
  | silent _ => rfl
  | failed _ _ => rfl

/-- Awaiting any output leaves the exit code alone, by cases on the rules. -/
theorem OutputAwaited.exitCode_eq {stream : Stream} {answers : List Reception}
    {verdict : Option Verdict}
    (awaited : OutputAwaited number stream session answers final verdict)
    : final.exitCode = session.exitCode := by
  cases awaited with
  | pending _ => exact Session.exitCode_takeAll ..
  | chunk _ => exact (Session.exitCode_takeAll ..).trans (Session.exitCode_setPending ..)
  | ended _ => rfl
  | silent _ => rfl
  | failed _ _ => rfl

/-- Awaiting an expectation leaves the exit code alone, by cases on the rules. -/
theorem ExpectationAwaited.exitCode_eq {expectation : Option Expectation} {calls : List Call}
    {verdict : Option Verdict}
    (awaited : ExpectationAwaited limit number session expectation calls final verdict)
    : final.exitCode = session.exitCode := by
  cases awaited with
  | nothing => rfl
  | text awaited => exact awaited.exitCode_eq
  | output awaited => exact awaited.exitCode_eq

/-- Taking a step leaves the exit code alone, by cases on the rules. -/
theorem StepTaken.exitCode_eq {step : Step} {calls : List Call} {verdict : Option Verdict}
    (taken : StepTaken limit number step session calls final verdict)
    : final.exitCode = session.exitCode := by
  cases taken with
  | quiet _ awaited => exact awaited.exitCode_eq.trans (Session.exitCode_noteComment ..)
  | sent _ awaited => exact awaited.exitCode_eq.trans (Session.exitCode_noteComment ..)
  | refused _ => exact Session.exitCode_noteComment ..

/-- Taking steps leaves the exit code alone, by induction on the rules. -/
theorem StepsTaken.exitCode_eq {steps : List Step} {calls : List Call}
    {verdict : Option Verdict}
    (taken : StepsTaken limit number steps session calls final verdict)
    : final.exitCode = session.exitCode := by
  induction taken with
  | done => rfl
  | stopped taken => exact taken.exitCode_eq
  | satisfied taken _ ih => exact ih.trans taken.exitCode_eq

/-- Steps come to no verdict of a pass, by induction on the rules. -/
theorem StepsTaken.not_passed {steps : List Step} {calls : List Call}
    {verdict : Option Verdict}
    (taken : StepsTaken limit number steps session calls final verdict) (code : Option Int)
    : verdict ≠ some (.passed code) := by
  induction taken with
  | done => exact (Option.some_ne_none _).symm
  | stopped taken =>
      rintro ⟨⟩
      cases taken.justified
  | satisfied _ _ ih => exact ih

/-- While steps are taken no exit is told. -/
theorem StepsTaken.exits_eq {steps : List Step} {calls : List Call} {verdict : Option Verdict}
    (taken : StepsTaken limit number steps session calls final verdict)
    : exits calls = [] :=
  exits_eq_nil taken.wait_not_mem

/-- No read tells an exit. -/
theorem exits_reads (stream : Stream) (limit : Option Duration) (answers : List Reception)
    : exits (Call.reads stream limit answers) = [] :=
  exits_eq_nil fun answer => Call.wait_not_mem_reads answer stream limit answers

/-- At the end of a play the wait tells the one exit, which is the code that the session then has;
or the wait fails, and the code is left alone. By cases on the rules.
-/
theorem Closed.exits_eq {calls : List Call} {verdict : Option Verdict}
    (closed : Closed limit number session calls final verdict)
    : (verdict = none ∧ exits calls = [final.exitCode])
        ∨ ((∃ cause, verdict = some (.broken number cause))
          ∧ exits calls = []
          ∧ final.exitCode = session.exitCode) := by
  cases closed with
  | refused => exact .inr ⟨⟨_, rfl⟩, rfl, rfl⟩
  | @gathered code _ _ out err stdout stderr =>
      refine .inl ⟨rfl, ?_⟩
      have exited : final.exitCode = code := by
        rw [stderr.exitCode_eq, stdout.exitCode_eq]
        rfl
      change code :: exits (_ ++ _) = _
      rw [exits_append, exits_reads, exits_reads, exited]
      rfl

/-- After a play the session has the last exit that was told, by cases on the rules. -/
theorem Played.exitCode_eq {steps : List Step} {calls : List Call} {verdict : Verdict}
    (played : Played limit steps session calls final verdict)
    : final.exitCode = lastExit session.exitCode calls := by
  cases played with
  | stopped taken => rw [lastExit_of_exits_eq_nil taken.exits_eq, taken.exitCode_eq]
  | passed taken _ => rw [lastExit_of_exits_eq_nil taken.exits_eq, taken.exitCode_eq]
  | closed taken _ closed =>
      rw [lastExit_append, lastExit_of_exits_eq_nil taken.exits_eq]
      rcases closed.exits_eq with ⟨-, told⟩ | ⟨-, silent, same⟩
      · rw [lastExit, told]
        rfl
      · rw [lastExit_of_exits_eq_nil silent, same, taken.exitCode_eq]

/-- A play that passes reports its own exit if it closes, and what the session had if not. -/
theorem Played.reports {steps : List Step} {calls : List Call} {code : Option Int}
    (played : Played limit steps session calls final (.passed code))
    : ExitReported steps session.exitCode calls code := by
  generalize came : Verdict.passed code = verdict at played
  cases played with
  | stopped taken =>
      rw [← came] at taken
      exact absurd rfl (taken.not_passed code)
  | passed taken goesOn =>
      refine .carried goesOn taken.exits_eq ?_
      rw [Verdict.passed.inj came, taken.exitCode_eq]
  | closed taken closes closed =>
      refine .waited closes ?_
      rw [exits_append, taken.exits_eq, List.nil_append]
      rcases closed.exits_eq with ⟨passes, told⟩ | ⟨⟨cause, fails⟩, -, -⟩
      · rw [passes] at came
        rw [told, Verdict.passed.inj came]
      · rw [fails] at came
        cases came

end Rules

-----------------------------------------------------------------------------------------
-- Plays one after the other
-----------------------------------------------------------------------------------------

variable {σ : Type} [Peer σ]

namespace Exchange

/-- What is left when scenarios were played one after the other in one session and with one peer,
whatever came of each.
-/
def afterPlays (limit : Option Duration) (x : Exchange σ) (scenarios : List Scenario)
    : Exchange σ :=
  scenarios.foldl (fun x scenario => (play limit scenario x).2) x

/-- The calls that are made while scenarios are played one after the other. -/
def playsCalls (limit : Option Duration) (x : Exchange σ) : List Scenario → List Call
  | [] => []
  | scenario :: rest =>
    playCalls limit scenario.steps x ++ (play limit scenario x).2.playsCalls limit rest

/-- After plays the session has the last exit that any of them was told, by induction on them. -/
theorem exitCode_afterPlays (limit : Option Duration) (x : Exchange σ)
    (scenarios : List Scenario)
    : (x.afterPlays limit scenarios).session.exitCode
      = lastExit x.session.exitCode (x.playsCalls limit scenarios) := by
  induction scenarios generalizing x with
  | nil => rfl
  | cons scenario rest ih =>
      obtain ⟨calls, answered, played⟩ := playSteps_follows limit scenario.steps x
      rw [afterPlays, List.foldl_cons, ← afterPlays, ih, playsCalls, lastExit_append,
        played.calls_eq answered]
      exact congrArg (lastExit · _) played.exitCode_eq

end Exchange

/-- Of scenarios that are played one after the other, one that passes reports the exit code that its
own wait was answered with, if it closes. If it does not, it reports what the last wait before it
was answered with, in whichever play that was, or what the session had from the beginning.
-/
theorem plays_report_last_exit (limit : Option Duration) (earlier : List Scenario)
    (scenario : Scenario) (x : Exchange σ) {code : Option Int}
    (passed : (play limit scenario (x.afterPlays limit earlier)).1 = .passed code)
    : ExitReported scenario.steps
        (lastExit x.session.exitCode (x.playsCalls limit earlier))
        (playCalls limit scenario.steps (x.afterPlays limit earlier)) code := by
  obtain ⟨calls, answered, played⟩ :=
    playSteps_follows limit scenario.steps (x.afterPlays limit earlier)
  rw [← x.exitCode_afterPlays limit earlier, played.calls_eq answered]
  unfold play at passed
  rw [passed] at played
  exact played.reports

/-- The session has a code from before, and the first scenario does not close. The second does, and
what it reports is that a signal ended the program.
-/
theorem plays_report_last_exit_of_signal
    : let first : Scenario := { name := "first", steps := [{ input := some "a\n" }] }
      let second : Scenario :=
        { name := "second", steps := [{ input := some "b\n", closes := true }] }
      let x := Exchange.afterPlays none ⟨{ exitCode := some 7 }, ({} : Canned)⟩ [first]
      (play none second x).1 = .passed none
        ∧ exits (playCalls none second.steps x) = [none] := by
  intro first second x
  have left : x = _ :=
    congrArg Prod.snd (Played.determines (.passed (.satisfied (.sent rfl .nothing) .done) rfl)
      (.send rfl (.nil _)))
  have passed : (play none second x).1 = .passed none := by
    rw [left]
    exact congrArg Prod.fst (Played.determines
      (.closed (.satisfied (.sent rfl .nothing) .done) rfl (.gathered .ended .ended))
      (.send rfl (.wait rfl (.receive rfl (.receive rfl (.nil _))))))
  refine ⟨passed, ?_⟩
  cases plays_report_last_exit none [first] second _ passed with
  | waited _ told => exact told
  | carried goesOn _ _ => cases goesOn

/-- A scenario without steps, played after one that closed, reports the exit code of that one,
though nothing was waited for in its own play.
-/
theorem plays_report_earlier_exit
    : let first : Scenario :=
        { name := "first", steps := [{ input := some "a\n", closes := true }] }
      let second : Scenario := { name := "second" }
      let x := Exchange.afterPlays none ⟨{}, ({ exitCode := some 3 } : Canned)⟩ [first]
      Step.closesLast second.steps = false
        ∧ exits (playCalls none second.steps x) = []
        ∧ (play none second x).1 = .passed (some 3) := by
  intro first second x
  have left : x = _ :=
    congrArg Prod.snd (Played.determines
      (.closed (.satisfied (.sent rfl .nothing) .done) rfl (.gathered .ended .ended))
      (.send rfl (.wait rfl (.receive rfl (.receive rfl (.nil _))))))
  rw [left]
  exact ⟨rfl, rfl, rfl⟩

end Dialogue
