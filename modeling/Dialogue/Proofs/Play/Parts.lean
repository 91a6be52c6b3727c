import Dialogue.Proofs.Play.ExitCode

/-!
Plays in two parts. Steps of which the second part is played in the session and with the peer that
the first left come to what they come to in one play, where the steps of the second part are counted
on from those of the first. The number of a step stands in its verdict, and nowhere else but in the
entry of the log that announces a mismatch.
-/

namespace Dialogue

-----------------------------------------------------------------------------------------
-- Counting on
-----------------------------------------------------------------------------------------

/-- A verdict with its step counted on from so many; one that passes is about no step. -/
def Verdict.countedOn (ahead : Nat) : Verdict → Verdict
  | .passed exitCode => .passed exitCode
  | .mismatch step stream expected actual => .mismatch (step + ahead) stream expected actual
  | .noOutput step stream => .noOutput (step + ahead) stream
  | .timeout step stream expected received => .timeout (step + ahead) stream expected received
  | .broken step cause => .broken (step + ahead) cause

/-- The session that is left with a verdict, and the one that is left with it counted on from so
many. They are the same unless there was a mismatch: what was logged in front of its announcement is
then the same, and so is the difference behind it, and the announcement names the step of either.
-/
inductive Session.CountedOn (ahead : Nat) : Option Verdict → Session → Session → Prop
  | same {verdict : Option Verdict} {session : Session}
    (matched
      : ∀ step stream expected actual,
          verdict ≠ some (.mismatch step stream expected actual))
    : CountedOn ahead verdict session session
  | mismatch {before : Session} {step : Nat} {stream : Stream} {expected actual : String}
    {difference : String}
    : CountedOn ahead (some (.mismatch step stream expected actual))
        ((before.note s!"[{stream.name} mismatch at step {step}]").note difference)
        ((before.note s!"[{stream.name} mismatch at step {step + ahead}]").note difference)

/-- Where nothing ended the play, the sessions are the same. -/
theorem Session.CountedOn.eq_of_none {ahead : Nat} {session other : Session}
    (counted : CountedOn ahead none session other)
    : other = session := by
  cases counted
  rfl

section Rules

variable {limit : Option Duration} {number : Nat} {stream : Stream} {session final : Session}
  {answers : List Reception} {calls : List Call} {verdict : Option Verdict}

/-- A text is awaited alike whatever the number of the step is, by induction on the rules. -/
theorem TextAwaited.countedOn {expected : String}
    (awaited : TextAwaited number stream expected session answers final verdict) (ahead : Nat)
    : ∃ other,
        TextAwaited (number + ahead) stream expected session answers other
            (verdict.map (.countedOn ahead))
          ∧ Session.CountedOn ahead verdict final other := by
  induction awaited with
  | met begins => exact ⟨_, .met begins, .same nofun⟩
  | apart unmet differs => exact ⟨_, .apart unmet differs, .mismatch⟩
  | chunk undecided _ ih =>
      obtain ⟨other, rest, counted⟩ := ih
      exact ⟨other, .chunk undecided rest, counted⟩
  | ended undecided => exact ⟨_, .ended undecided, .mismatch⟩
  | silent undecided => exact ⟨_, .silent undecided, .same nofun⟩
  | failed undecided loud => exact ⟨_, .failed undecided loud, .same nofun⟩

/-- Any output is awaited alike whatever the number of the step is, by cases on the rules. -/
theorem OutputAwaited.countedOn
    (awaited : OutputAwaited number stream session answers final verdict) (ahead : Nat)
    : OutputAwaited (number + ahead) stream session answers final
          (verdict.map (.countedOn ahead))
        ∧ Session.CountedOn ahead verdict final final := by
  cases awaited with
  | pending some => exact ⟨.pending some, .same nofun⟩
  | chunk empty => exact ⟨.chunk empty, .same nofun⟩
  | ended empty => exact ⟨.ended empty, .same nofun⟩
  | silent empty => exact ⟨.silent empty, .same nofun⟩
  | failed empty loud => exact ⟨.failed empty loud, .same nofun⟩

/-- What a step expects is awaited alike whatever its number is, by cases on the rules. -/
theorem ExpectationAwaited.countedOn {expectation : Option Expectation}
    (awaited : ExpectationAwaited limit number session expectation calls final verdict)
    (ahead : Nat)
    : ∃ other,
        ExpectationAwaited limit (number + ahead) session expectation calls other
            (verdict.map (.countedOn ahead))
          ∧ Session.CountedOn ahead verdict final other := by
  cases awaited with
  | nothing => exact ⟨_, .nothing, .same nofun⟩
  | text awaited =>
      obtain ⟨other, later, counted⟩ := awaited.countedOn ahead
      exact ⟨other, .text later, counted⟩
  | output awaited =>
      obtain ⟨later, counted⟩ := awaited.countedOn ahead
      exact ⟨_, .output later, counted⟩

/-- A step is taken alike whatever its number is, by cases on the rules. -/
theorem StepTaken.countedOn {step : Step}
    (taken : StepTaken limit number step session calls final verdict) (ahead : Nat)
    : ∃ other,
        StepTaken limit (number + ahead) step session calls other
            (verdict.map (.countedOn ahead))
          ∧ Session.CountedOn ahead verdict final other := by
  cases taken with
  | quiet input awaited =>
      obtain ⟨other, later, counted⟩ := awaited.countedOn ahead
      exact ⟨other, .quiet input later, counted⟩
  | sent input awaited =>
      obtain ⟨other, later, counted⟩ := awaited.countedOn ahead
      exact ⟨other, .sent input later, counted⟩
  | refused input => exact ⟨_, .refused input, .same nofun⟩

/-- Steps are taken alike from whatever number on, by induction on the rules: a step that is
satisfied leaves the same session either way.
-/
theorem StepsTaken.countedOn {steps : List Step}
    (taken : StepsTaken limit number steps session calls final verdict) (ahead : Nat)
    : ∃ other,
        StepsTaken limit (number + ahead) steps session calls other
            (verdict.map (.countedOn ahead))
          ∧ Session.CountedOn ahead verdict final other := by
  induction taken with
  | done => exact ⟨_, .done, .same nofun⟩
  | stopped taken =>
      obtain ⟨other, later, counted⟩ := taken.countedOn ahead
      exact ⟨other, .stopped later, counted⟩
  | @satisfied number step rest session middle final calls more verdict taken _ ih =>
      obtain ⟨_, later, same⟩ := taken.countedOn ahead
      obtain ⟨other, others, counted⟩ := ih
      rw [same.eq_of_none] at later
      rw [Nat.add_right_comm] at others
      exact ⟨other, .satisfied later others, counted⟩

/-- The end is waited for alike whatever its number is, by cases on the rules. -/
theorem Closed.countedOn (closed : Closed limit number session calls final verdict)
    (ahead : Nat)
    : Closed limit (number + ahead) session calls final (verdict.map (.countedOn ahead))
        ∧ ∀ code,
            Session.CountedOn ahead (some (verdict.getD (.passed code))) final final := by
  cases closed with
  | refused => exact ⟨.refused, fun _ => .same nofun⟩
  | gathered stdout stderr => exact ⟨.gathered stdout stderr, fun _ => .same nofun⟩

-----------------------------------------------------------------------------------------
-- Steps behind steps
-----------------------------------------------------------------------------------------

variable {first : List Step}

/-- A step that ends the play ends it in front of whatever steps, by induction on the rules. -/
theorem StepsTaken.append_of_stopped {ended : Verdict}
    (taken : StepsTaken limit number first session calls final (some ended))
    (second : List Step)
    : StepsTaken limit number (first ++ second) session calls final (some ended) := by
  induction first generalizing number session calls with
  | nil => cases taken
  | cons step first ih =>
      cases taken with
      | stopped taken => exact .stopped taken
      | satisfied taken others => exact .satisfied taken (ih others)

/-- Behind steps that are satisfied others are taken, by induction on the satisfied ones. -/
theorem StepsTaken.append {second : List Step} {middle : Session} {more : List Call}
    (taken : StepsTaken limit number first session calls middle none)
    (others : StepsTaken limit (number + first.length) second middle more final verdict)
    : StepsTaken limit number (first ++ second) session (calls ++ more) final verdict := by
  induction first generalizing number session calls with
  | nil =>
      cases taken
      exact others
  | cons step first ih =>
      cases taken with
      | satisfied taken rest =>
          rw [List.length_cons, Nat.add_comm first.length, ← Nat.add_assoc] at others
          rw [List.append_assoc]
          exact .satisfied taken (ih rest others)

/-- Where the first steps do not close, all close if the second ones do. -/
theorem Step.closesLast_append (goesOn : closesLast first = false) (second : List Step)
    : closesLast (first ++ second) = closesLast second := by
  unfold closesLast at goesOn ⊢
  rw [List.getLast?_append]
  cases second.getLast? with
  | none => exact goesOn
  | some last => rfl

/-- Behind steps that are satisfied and do not close, a play of others is a play of them all, by
cases on the rules.
-/
theorem StepsTaken.played_append {second : List Step} {middle : Session} {more : List Call}
    {ended : Verdict} (taken : StepsTaken limit 1 first session calls middle none)
    (goesOn : Step.closesLast first = false)
    (played : Played limit second middle more final ended)
    : ∃ other,
        Played limit (first ++ second) session (calls ++ more) other
            (ended.countedOn first.length)
          ∧ Session.CountedOn first.length (some ended) final other := by
  have closing := Step.closesLast_append goesOn second
  cases played with
  | stopped others =>
      obtain ⟨other, later, counted⟩ := others.countedOn first.length
      exact ⟨other, .stopped (taken.append later), counted⟩
  | passed others goesOnToo =>
      obtain ⟨other, later, counted⟩ := others.countedOn first.length
      rw [counted.eq_of_none] at later
      exact ⟨final, .passed (taken.append later) (closing.trans goesOnToo), .same nofun⟩
  | @closed _ _ _ _ verdict others closes closed =>
      obtain ⟨other, later, counted⟩ := others.countedOn first.length
      -- The end has the number of the last step, which all steps together reach further on.
      obtain ⟨atEnd, same⟩ := closed.countedOn first.length
      rw [counted.eq_of_none] at later
      rw [Nat.add_comm, ← List.length_append] at atEnd
      have whole := Played.closed (taken.append later) (closing.trans closes) atEnd
      refine ⟨final, ?_, same _⟩
      rw [← List.append_assoc]
      cases verdict with
      | none => exact whole
      | some verdict => exact whole

end Rules

-----------------------------------------------------------------------------------------
-- Two plays as one
-----------------------------------------------------------------------------------------

variable {σ : Type}

/-- A play that came out as another did, its steps counted on from so many. -/
structure CameOutOn (ahead : Nat) (part whole : Verdict × Exchange σ) : Prop where
  verdict : whole.1 = part.1.countedOn ahead
  peer : whole.2.peer = part.2.peer
  session : Session.CountedOn ahead (some part.1) part.2.session whole.2.session

variable [Peer σ]

/-- Steps that are played in two parts, the first of which does not close, come to what they come
to in one play. If the first part does not pass, the play of all is the play of it. If it passes,
the play of all comes out as that of the second part in what the first left, with its steps counted
on from those of the first.
-/
theorem play_in_two_parts (limit : Option Duration) {first : List Step}
    (goesOn : Step.closesLast first = false) (second : List Step) (x : Exchange σ)
    : let part := playSteps limit first x
      let whole := playSteps limit (first ++ second) x
      (part.1.isPassed = false → whole = part)
        ∧ (part.1.isPassed = true
          → CameOutOn first.length (playSteps limit second part.2) whole) := by
  intro part whole
  obtain ⟨calls, answered, taken⟩ := x.takeSteps_follows limit 1 first
  cases came : (x.takeSteps limit 1 first).verdict with
  | some verdict =>
      rw [came] at taken
      have stopped : part = (verdict, (x.takeSteps limit 1 first).exchange) :=
        playSteps_of_stopped came
      have same : whole = part := by
        rw [stopped]
        exact (Played.stopped (taken.append_of_stopped second)).determines answered
      refine ⟨fun _ => same, fun passed => ?_⟩
      rw [stopped] at passed
      cases verdict with
      | passed code => exact absurd rfl (taken.not_passed code)
      | mismatch | noOutput | timeout | broken => cases passed
  | none =>
      rw [came] at taken
      have passes : part = _ := playSteps_of_open came goesOn
      rw [passes]
      refine ⟨nofun, fun _ => ?_⟩
      obtain ⟨more, later, played⟩ :=
        playSteps_follows limit second (x.takeSteps limit 1 first).exchange
      obtain ⟨other, all, counted⟩ := taken.played_append goesOn played
      have eq : whole = _ := all.determines (answered.append later)
      rw [eq]
      exact { verdict := rfl, peer := rfl, session := counted }

/-- What the first part left over meets the second, whose wait then fails: it fails at its first
step by itself, and at the second of all. Where the first part fails, the second is not begun.
-/
theorem play_in_two_parts_of_surplus
    : let first : List Step := [{ input := some "a\n", output := some "one\n" }]
      let second : List Step := [{ output := some "two\n", closes := true }]
      let peer : Canned :=
        { stdout := [.chunk (Text.octets "one\ntw"), .chunk (Text.octets "o\n")]
          waitFault := some .noEntry }
      let x : Exchange Canned := ⟨{}, peer⟩
      let astray : Exchange Canned := ⟨{ stdout := Text.octets "two\n" }, peer⟩
      let cause := "failed to wait for process: No such file or directory (os error 2)"
      Step.closesLast first = false
        ∧ (playSteps none first x).1 = .passed none
        ∧ (playSteps none second (playSteps none first x).2).1 = .broken 1 cause
        ∧ (playSteps none (first ++ second) x).1 = .broken 2 cause
        ∧ (playSteps none first astray).1 = .mismatch 1 .stdout "one\n" "two\n"
        ∧ playSteps none (first ++ second) astray = playSteps none first astray := by
  intro first second peer x astray cause
  have goesOn : Step.closesLast first = false := rfl
  have part : playSteps none first x = _ :=
    Played.determines
      (.passed (.satisfied (.sent rfl (.text (.chunk ⟨by decide, by decide⟩ (.met (by decide)))))
        .done) rfl)
      (.send rfl (.receive rfl (.nil _)))
  have waits : playSteps none second (playSteps none first x).2 = _ :=
    (congrArg (fun y : Verdict × Exchange Canned => playSteps none second y.2) part).trans
      (Played.determines
        (.closed (.satisfied
          (.quiet rfl (.text (.chunk ⟨by decide, by decide⟩ (.met (by decide)))))
          .done) rfl .refused)
        (.receive rfl (.wait rfl (.nil _))))
  have fails : (playSteps none second (playSteps none first x).2).1 = .broken 1 cause := by
    rw [waits]
    decide
  have stopped : playSteps none first astray = _ :=
    Played.determines (.stopped (.stopped (.sent rfl (.text (.apart (by decide) (by decide))))))
      (.send rfl (.nil _))
  have passes : (playSteps none first x).1.isPassed = true := by rw [part]; rfl
  have failsToo : (playSteps none first astray).1 = .mismatch 1 .stdout "one\n" "two\n" := by
    rw [stopped]
    decide
  have whole := (play_in_two_parts none goesOn second x).2 passes
  refine ⟨goesOn, by rw [part]; rfl, fails, ?_, failsToo, ?_⟩
  · rw [whole.verdict, fails]
    rfl
  · exact (play_in_two_parts none goesOn second astray).1 (by rw [failsToo]; rfl)

/-- Steps in two parts do not leave the session that they leave in one play: the mismatch of the
second part is logged under the number that its step has there.
-/
theorem play_in_two_parts_logs_other_step
    : let first : List Step := [{ input := some "a\n" }]
      let second : List Step := [{ output := some "b\n" }]
      let x : Exchange Canned := ⟨{}, { stdout := [.chunk (Text.octets "c\n")] }⟩
      let rest := playSteps none second (playSteps none first x).2
      let whole := playSteps none (first ++ second) x
      let difference := "--- expected\n+++ actual\n@@ -1 +1 @@\n-b\n+c\n"
      Step.closesLast first = false
        ∧ (playSteps none first x).1 = .passed none
        ∧ rest.2.session.log
          = "> a\n[stdout mismatch at step 1]\n" ++ difference
        ∧ whole.2.session.log
          = "> a\n[stdout mismatch at step 2]\n" ++ difference
        ∧ whole.2.session ≠ rest.2.session := by
  intro first second x rest whole difference
  have part : playSteps none first x = _ :=
    Played.determines (.passed (.satisfied (.sent rfl .nothing) .done) rfl) (.send rfl (.nil _))
  have behind : rest = _ :=
    (congrArg (fun y : Verdict × Exchange Canned => playSteps none second y.2) part).trans
      (Played.determines
        (.stopped (.stopped (.quiet rfl (.text
          (.chunk ⟨by decide, by decide⟩ (.apart (by decide) (by decide)))))))
        (.receive rfl (.nil _)))
  have both : whole = _ :=
    Played.determines
      (.stopped (.satisfied (.sent rfl .nothing) (.stopped (.quiet rfl (.text
        (.chunk ⟨by decide, by decide⟩ (.apart (by decide) (by decide))))))))
      (.send rfl (.receive rfl (.nil _)))
  have apart : rest.2.session.log = "> a\n[stdout mismatch at step 1]\n" ++ difference := by
    rw [behind]
    decide +kernel
  have together : whole.2.session.log = "> a\n[stdout mismatch at step 2]\n" ++ difference := by
    rw [both]
    decide +kernel
  refine ⟨rfl, by rw [part]; rfl, apart, together, fun same => ?_⟩
  rw [same, apart] at together
  exact absurd together (by decide)

end Dialogue
