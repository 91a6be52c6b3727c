import Dialogue.Proofs.Play.Accounting
import Dialogue.Proofs.Play.Delivering
import Dialogue.Proofs.Play.Justification

/-!
How a play with a peer that delivers comes out. Only the octets of the streams as a whole decide:
the play passes if what the steps expect on each stream begins what comes there, and otherwise it
ends at the first step with which it no longer does.
-/

namespace Dialogue

-----------------------------------------------------------------------------------------
-- What is expected, and what is sent
-----------------------------------------------------------------------------------------

/-- The text that a step expects on a stream; none if it expects no text there. -/
def Step.textOn (stream : Stream) (step : Step) : Octets :=
  match step.expectation with
  | some ⟨asked, some text⟩ => if asked = stream then Text.octets text else []
  | _ => []

/-- The texts that steps expect on a stream, one after the other. -/
def expectedOn (stream : Stream) (steps : List Step) : Octets :=
  steps.flatMap (Step.textOn stream)

/-- On each stream, what steps expect is the beginning of all that comes. -/
def Meets (total : Stream → Octets) (steps : List Step) : Prop :=
  ∀ stream, expectedOn stream steps <+: total stream

/-- The texts that calls sent, in order, taken or not. -/
def written (calls : List Call) : List String :=
  calls.filterMap fun
    | .send text _ => some text
    | _ => none

/-- The first step with which what comes no longer meets what is expected, as the verdict names it,
after the inputs of the steps up to this one were sent and no others.
-/
inductive FirstUnmet (total : Stream → Octets) (steps : List Step) (sent : List String)
    : Verdict → Prop
  | mismatch {before rest : List Step} {step : Step} {stream : Stream}
    {expected actual : String} (split : steps = before ++ step :: rest)
    (met : ∀ count ≤ before.length, Meets total (steps.take count))
    (expects : step.expectation = some ⟨stream, some expected⟩)
    (unmet : ¬ expectedOn stream (before ++ [step]) <+: total stream)
    (inputs : sent = (before ++ [step]).filterMap Step.input)
    : FirstUnmet total steps sent (.mismatch (before.length + 1) stream expected actual)

/-- The end of a play that closed: the code is known, and all that came and was not expected is
pending.
-/
structure Drained (total : Stream → Octets) (code : Option Int) (steps : List Step)
    (final : Session) : Prop where
  exited : final.exitCode = code
  left : ∀ stream, total stream = expectedOn stream steps ++ final.pending stream

/-- How a play comes out when so much comes on the streams and the program ends with a code. -/
structure PlayOutcome (total : Stream → Octets) (code : Option Int) (steps : List Step)
    (sent : List String) (verdict : Verdict) (final : Session) : Prop where
  passes : (∃ code, verdict = .passed code) ↔ Meets total steps
  inputs : Meets total steps → sent = steps.filterMap Step.input
  exits
    : ∀ {before : List Step} {last : Step},
        Meets total steps
        → steps = before ++ [last]
        → last.closes = true
        → verdict = .passed code ∧ Drained total code steps final
  fails : ¬ Meets total steps → FirstUnmet total steps sent verdict

-----------------------------------------------------------------------------------------
-- Satisfied steps
-----------------------------------------------------------------------------------------

/-- Steps one after the other expect what they do one after the other. -/
theorem expectedOn_append (stream : Stream) (steps more : List Step)
    : expectedOn stream (steps ++ more) = expectedOn stream steps ++ expectedOn stream more :=
  List.flatMap_append

/-- Where steps are met, so are the first of them. -/
theorem Meets.of_append {total : Stream → Octets} {before rest : List Step}
    (meets : Meets total (before ++ rest))
    : Meets total before := by
  intro stream
  have whole := meets stream
  rw [expectedOn_append] at whole
  exact (List.prefix_append _ _).trans whole

/-- Where a step is the first that is not met, the steps are not. -/
theorem FirstUnmet.not_meets {total : Stream → Octets} {steps : List Step}
    {sent : List String} {verdict : Verdict} (first : FirstUnmet total steps sent verdict)
    : ¬ Meets total steps := by
  intro meets
  cases first with
  | @mismatch before rest step stream _ _ split _ _ unmet _ =>
      rw [split, List.append_cons] at meets
      exact unmet (meets.of_append stream)

/-- Where a step is the first that is not met, the play does not pass. -/
theorem FirstUnmet.not_passed {total : Stream → Octets} {steps : List Step}
    {sent : List String} {verdict : Verdict} (first : FirstUnmet total steps sent verdict)
    : ¬ ∃ code, verdict = .passed code := by
  rintro ⟨code, rfl⟩
  cases first

/-- A step that expects no output at will takes exactly its text. -/
theorem Step.takes_eq_textOn {step : Step} (text : step.onStderr = true → step.output ≠ none)
    (stream : Stream) (come : Octets)
    : step.takes stream come = step.textOn stream := by
  unfold takes textOn expectation
  cases onStderr : step.onStderr <;> cases output : step.output
  · rfl
  · rfl
  · exact absurd output (text onStderr)
  · rfl

/-- A step that expects no output at will expects a text if it expects anything. -/
theorem Step.expects_text {step : Step} (text : step.onStderr = true → step.output ≠ none)
    (stream : Stream)
    : step.expectation ≠ some ⟨stream, none⟩ := by
  unfold expectation
  cases onStderr : step.onStderr <;> cases output : step.output
  · simp
  · simp
  · exact absurd output (text onStderr)
  · simp

/-- Reads send nothing, by induction on their answers. -/
theorem written_reads (stream : Stream) (limit : Option Duration) (answers : List Reception)
    : written (Call.reads stream limit answers) = [] := by
  induction answers with
  | nil => rfl
  | cons answer answers ih => exact ih

/-- Calls send what they do in order. -/
theorem written_append (calls more : List Call)
    : written (calls ++ more) = written calls ++ written more :=
  List.filterMap_append

/-- Calls of which only others than sending are left out send the same. -/
theorem written_filter {kept : Call → Bool}
    (sends : ∀ text answer, kept (.send text answer) = true) (calls : List Call)
    : written (calls.filter kept) = written calls := by
  unfold written
  rw [List.filterMap_filter]
  refine congrArg (List.filterMap · calls) (funext fun call => ?_)
  cases call with
  | send text answer => exact if_pos (sends text answer)
  | receive _ _ _ => exact ite_self none
  | wait _ => exact ite_self none

/-- While an expectation is awaited nothing is sent, by cases on the rules. -/
theorem ExpectationAwaited.written_eq {limit : Option Duration} {number : Nat}
    {expectation : Option Expectation} {session final : Session} {calls : List Call}
    {verdict : Option Verdict}
    (awaited : ExpectationAwaited limit number session expectation calls final verdict)
    : written calls = [] := by
  cases awaited with
  | nothing => rfl
  | text _ => exact written_reads ..
  | output _ => exact written_reads ..

/-- A step sends its input, however it ends. -/
theorem StepTaken.written_eq {limit : Option Duration} {number : Nat} {step : Step}
    {session final : Session} {calls : List Call} {verdict : Option Verdict}
    (taken : StepTaken limit number step session calls final verdict)
    : written calls = step.input.toList := by
  cases taken with
  | quiet input awaited =>
      rw [input, awaited.written_eq]
      rfl
  | @sent text calls _ _ input awaited =>
      rw [input]
      exact congrArg (text :: ·) awaited.written_eq
  | refused input =>
      rw [input]
      rfl

/-- Satisfied steps send their inputs, by induction on the rules. -/
theorem StepsTaken.written_eq {limit : Option Duration} {number : Nat} {steps : List Step}
    {session final : Session} {calls : List Call} {verdict : Option Verdict}
    (taken : StepsTaken limit number steps session calls final verdict)
    (satisfied : verdict = none)
    : written calls = steps.filterMap Step.input := by
  induction taken with
  | done => rfl
  | stopped _ => cases satisfied
  | @satisfied _ step rest _ _ _ calls more _ taken _ ih =>
      rw [written_append, taken.written_eq, ih satisfied, List.filterMap_cons]
      cases step.input <;> rfl

/-- At the end of a play nothing is sent. -/
theorem Closed.written_eq {limit : Option Duration} {number : Nat} {session final : Session}
    {calls : List Call} {verdict : Option Verdict}
    (closed : Closed limit number session calls final verdict)
    : written calls = [] := by
  cases closed with
  | refused => rfl
  | @gathered code middle final out err _ _ =>
      change written (_ ++ _) = []
      rw [written_append, written_reads, written_reads]
      rfl

variable {σ : Type} [Peer σ]

/-- Satisfied steps that expect no output at will take their texts, by induction on the steps. -/
theorem Exchange.takenOn_eq_expectedOn {limit : Option Duration} {number : Nat}
    {x : Exchange σ} {steps : List Step}
    (texts : ∀ step ∈ steps, step.onStderr = true → step.output ≠ none)
    (satisfied : (x.takeSteps limit number steps).verdict = none) (stream : Stream)
    : x.takenOn limit stream number steps = expectedOn stream steps := by
  induction steps generalizing number x with
  | nil => rfl
  | cons step rest ih =>
      obtain ⟨came, satisfied⟩ := satisfied_cons satisfied
      have others := ih (fun other member => texts other (List.mem_cons_of_mem _ member))
        satisfied
      rw [takenOn, came]
      dsimp only
      rw [Step.takes_eq_textOn (texts step List.mem_cons_self), others]
      exact List.flatMap_cons.symm

/-- What was pending before satisfied steps and what came during them is their texts and what is
pending after them.
-/
theorem Exchange.come_of_satisfied {limit : Option Duration} {x : Exchange σ}
    {steps : List Step} (texts : ∀ step ∈ steps, step.onStderr = true → step.output ≠ none)
    (satisfied : (x.takeSteps limit 1 steps).verdict = none) (stream : Stream)
    : x.session.pending stream ++ received stream (x.stepsCalls limit 1 steps)
      = expectedOn stream steps
        ++ (x.takeSteps limit 1 steps).exchange.session.pending stream := by
  obtain ⟨left, account, leaves⟩ := x.takeSteps_accounted limit stream 1 steps
  rw [satisfied] at leaves
  have found : (x.takeSteps limit 1 steps).exchange.session.pending stream = left := leaves
  rw [account, found, takenOn_eq_expectedOn texts satisfied]

/-- With a peer that delivers, satisfied steps are met by what comes. -/
theorem Exchange.meets_of_satisfied {limit : Option Duration} {x : Exchange σ}
    {steps : List Step} {code : Option Int} {chunks : Stream → List Octets}
    (delivers : Delivers code chunks x.peer)
    (texts : ∀ step ∈ steps, step.onStderr = true → step.output ≠ none)
    (satisfied : (x.takeSteps limit 1 steps).verdict = none)
    : Meets (fun stream => x.session.pending stream ++ (chunks stream).flatten) steps := by
  intro stream
  obtain ⟨rest, brought, -⟩ := (delivers (x.stepsCalls_taken limit 1 steps).1).flatten_eq stream
  dsimp only
  rw [brought, ← List.append_assoc, come_of_satisfied texts satisfied, List.append_assoc]
  exact List.prefix_append _ _

-----------------------------------------------------------------------------------------
-- The step at which a play ends
-----------------------------------------------------------------------------------------

/-- What justifies a verdict on a step that expects no output at will, where no call fails, is a
text that will not come: neither what has come begins with it, nor will it with what is left.
-/
theorem Justified.unmet {limit : Option Duration} {number : Nat} {step : Step}
    {begun : Session} {calls : List Call} {verdict : Verdict}
    (justified : Justified limit number step begun calls verdict)
    (text : step.onStderr = true → step.output ≠ none)
    (sends : ∀ text error, .send text (.error error) ∉ calls)
    (reads : ∀ stream limit error, .receive stream limit (.failed error) ∉ calls)
    : ∃ stream expected actual,
        verdict = .mismatch number stream expected actual
          ∧ step.expectation = some ⟨stream, some expected⟩
          ∧ ∀ rest,
              (.receive stream limit .ended ∈ calls → rest = [])
              → ¬ Text.octets expected <+: begun.come stream calls ++ rest := by
  cases justified with
  | @mismatch stream expected expects unmet decided =>
      refine ⟨stream, expected, _, rfl, expects, ?_⟩
      intro rest atEnd begins
      rcases decided with differs | last
      · rcases List.prefix_or_prefix_of_prefix begins (List.prefix_append _ rest) with met | early
        · exact unmet met
        · exact differs early
      · rw [atEnd (List.mem_of_getLast? last), List.append_nil] at begins
        exact unmet begins
  | timeout _ _ _ last => exact absurd (List.mem_of_getLast? last) (reads _ _ _)
  | outputTimeout _ _ last => exact absurd (List.mem_of_getLast? last) (reads _ _ _)
  | noOutput expects _ _ => exact absurd expects (Step.expects_text text _)
  | unsent _ made => exact absurd (made ▸ List.mem_singleton.mpr rfl) (sends _ _)
  | unread _ _ _ last => exact absurd (List.mem_of_getLast? last) (reads _ _ _)

/-- With a peer that delivers, steps stop at the first that is not met. Witness: what the steps
before it took is what they expect, so what is missing for its text is missing from all that comes.
-/
theorem Exchange.firstUnmet_of_stopped {limit : Option Duration} {x : Exchange σ}
    {steps : List Step} {code : Option Int} {chunks : Stream → List Octets} {verdict : Verdict}
    (delivers : Delivers code chunks x.peer)
    (texts : ∀ step ∈ steps, step.onStderr = true → step.output ≠ none)
    (came : (x.takeSteps limit 1 steps).verdict = some verdict)
    : FirstUnmet (fun stream => x.session.pending stream ++ (chunks stream).flatten) steps
        (written (playCalls limit steps x)) verdict := by
  obtain ⟨before, step, rest, rfl, satisfied, stopped, made⟩ := playCalls_stopped_at came
  have textsBefore : ∀ step ∈ before, step.onStderr = true → step.output ≠ none :=
    fun step member => texts step (List.mem_append_left _ member)
  have text := texts step (List.mem_append_right _ List.mem_cons_self)
  have taken := (stepCalls_taken limit (before.length + 1) step
    (x.takeSteps limit 1 before).exchange).2
  rw [stopped] at taken
  have delivery := delivers (playCalls_answered limit (before ++ step :: rest) x)
  rw [made] at delivery ⊢
  obtain ⟨stream, expected, actual, rfl, expects, missing⟩ := taken.justified.unmet text
    (fun text error member => by cases delivery.sends (List.mem_append_right _ member))
    (fun stream limit error member =>
      delivery.not_failed stream limit error (List.mem_append_right _ member))
  refine .mismatch rfl ?met expects ?unmet ?inputs
  case met =>
    intro count bound
    rw [List.take_append_of_le_length bound]
    have meets := meets_of_satisfied delivers textsBefore satisfied
    rw [← List.take_append_drop count before] at meets
    exact meets.of_append
  case unmet =>
    obtain ⟨left, brought, atEnd⟩ := delivery.flatten_eq stream
    have own : expectedOn stream [step] = Text.octets expected := by
      simp [expectedOn, Step.textOn, expects]
    rw [brought, received_append, ← List.append_assoc, ← List.append_assoc,
      come_of_satisfied textsBefore satisfied, expectedOn_append, own, List.append_assoc,
      List.append_assoc, List.prefix_append_right_inj, ← List.append_assoc]
    exact missing left fun member => atEnd limit (List.mem_append_right _ member)
  case inputs =>
    rw [written_append, (stepsCalls_taken limit 1 x before).2.written_eq satisfied,
      taken.written_eq, List.filterMap_append, List.filterMap_cons]
    cases step.input <;> rfl

/-- With a peer that delivers, steps are satisfied exactly if they are met by what comes. -/
theorem Exchange.satisfied_iff_meets {limit : Option Duration} {x : Exchange σ}
    {steps : List Step} {code : Option Int} {chunks : Stream → List Octets}
    (delivers : Delivers code chunks x.peer)
    (texts : ∀ step ∈ steps, step.onStderr = true → step.output ≠ none)
    : (x.takeSteps limit 1 steps).verdict = none
      ↔ Meets (fun stream => x.session.pending stream ++ (chunks stream).flatten) steps := by
  cases came : (x.takeSteps limit 1 steps).verdict with
  | none => exact iff_of_true rfl (meets_of_satisfied delivers texts came)
  | some verdict =>
      have unmet := (firstUnmet_of_stopped delivers texts came).not_meets
      exact iff_of_false (Option.some_ne_none verdict) unmet

-----------------------------------------------------------------------------------------
-- The outcome of a play
-----------------------------------------------------------------------------------------

/-- Gathering a stream leaves the exit code alone, by induction on the reads. -/
theorem Gathered.exitCode_eq {stream : Stream} {session final : Session}
    {answers : List Reception} (came : Gathered stream session answers final)
    : final.exitCode = session.exitCode := by
  induction came with
  | chunk _ ih => rw [ih, Session.append, Session.exitCode_setPending]
  | ended => rfl
  | failed => rfl

/-- A stream that is gathered without a fault is read up to its end, by induction on the reads. -/
theorem Gathered.ended_mem {stream : Stream} {session final : Session}
    {answers : List Reception} (came : Gathered stream session answers final)
    (faultless : ∀ error, .failed error ∉ answers)
    : .ended ∈ answers := by
  induction came with
  | chunk _ ih =>
      refine List.mem_cons_of_mem _ (ih ?_)
      exact fun error member => faultless error (List.mem_cons_of_mem _ member)
  | ended => exact List.mem_cons_self
  | failed => exact absurd List.mem_cons_self (faultless _)

/-- Calls with which the end of a play is waited for, where they are delivered, give no verdict but
the code, and read each stream up to its end.
-/
theorem Closed.delivered {limit : Option Duration} {number : Nat} {session final : Session}
    {calls : List Call} {verdict : Option Verdict} {code : Option Int}
    (closed : Closed limit number session calls final verdict)
    (waits : ∀ {answer}, .wait answer ∈ calls → answer = .ok code)
    (reads : ∀ stream limit error, .receive stream limit (.failed error) ∉ calls)
    : verdict = none
        ∧ final.exitCode = code
        ∧ ∀ stream, .receive stream (some (Exchange.graceOf limit)) .ended ∈ calls := by
  cases closed with
  | refused => cases waits List.mem_cons_self
  | @gathered code middle final out err stdout stderr =>
      cases waits List.mem_cons_self
      refine ⟨rfl, ?_, ?_⟩
      · rw [stderr.exitCode_eq, stdout.exitCode_eq]
        rfl
      · intro stream
        apply List.mem_cons_of_mem
        cases stream with
        | stdout =>
            refine List.mem_append_left _ (List.mem_map_of_mem (stdout.ended_mem ?_))
            intro error member
            exact reads _ _ error
              (List.mem_cons_of_mem _ (List.mem_append_left _ (List.mem_map_of_mem member)))
        | stderr =>
            refine List.mem_append_right _ (List.mem_map_of_mem (stderr.ended_mem ?_))
            intro error member
            exact reads _ _ error
              (List.mem_cons_of_mem _ (List.mem_append_right _ (List.mem_map_of_mem member)))

/-- With a peer that delivers, the wait after satisfied steps is answered with the code, and by its
end all chunks have come. Witness: each stream is read up to its end.
-/
theorem Exchange.close_delivered {limit : Option Duration} {steps : List Step} {x : Exchange σ}
    {code : Option Int} {chunks : Stream → List Octets} (delivers : Delivers code chunks x.peer)
    (satisfied : (x.takeSteps limit 1 steps).verdict = none)
    (closes : Step.closesLast steps = true)
    : let last := (x.takeSteps limit 1 steps).exchange.close limit steps.length
      last.verdict = none
        ∧ last.exchange.session.exitCode = code
        ∧ ∀ stream, received stream (playCalls limit steps x) = (chunks stream).flatten := by
  have closed := ((x.takeSteps limit 1 steps).exchange.closeCalls_closed limit steps.length).2
  have delivery := delivers (playCalls_answered limit steps x)
  rw [playCalls_of_closed satisfied closes] at delivery ⊢
  obtain ⟨passed, exits, ends⟩ := closed.delivered
    (fun member => delivery.waits (List.mem_append_right _ member))
    (fun stream limit error member =>
      delivery.not_failed stream limit error (List.mem_append_right _ member))
  refine ⟨passed, exits, ?_⟩
  intro stream
  obtain ⟨rest, brought, atEnd⟩ := delivery.flatten_eq stream
  rw [brought, atEnd _ (List.mem_append_right _ (ends stream)), List.append_nil]

/-- With a peer that delivers, a play of satisfied steps passes after sending all inputs. -/
theorem playSteps_of_satisfied {limit : Option Duration} {steps : List Step} {x : Exchange σ}
    {code : Option Int} {chunks : Stream → List Octets} (delivers : Delivers code chunks x.peer)
    (satisfied : (x.takeSteps limit 1 steps).verdict = none)
    : (∃ code, (playSteps limit steps x).1 = .passed code)
        ∧ written (playCalls limit steps x) = steps.filterMap Step.input := by
  have sent := (x.stepsCalls_taken limit 1 steps).2.written_eq satisfied
  cases closes : Step.closesLast steps with
  | false =>
      rw [playSteps_of_open satisfied closes, playCalls_of_open satisfied closes]
      exact ⟨⟨_, rfl⟩, sent⟩
  | true =>
      have closed := ((x.takeSteps limit 1 steps).exchange.closeCalls_closed limit
        steps.length).2
      obtain ⟨passed, -⟩ := Exchange.close_delivered delivers satisfied closes
      rw [playSteps_of_closed satisfied closes, playCalls_of_closed satisfied closes,
        written_append, sent, closed.written_eq, List.append_nil]
      dsimp only
      rw [passed]
      exact ⟨⟨_, rfl⟩, rfl⟩

/-- With a peer that delivers, a play of satisfied steps that closes passes with the code, and what
came beyond the texts is pending.
-/
theorem playSteps_drained {limit : Option Duration} {steps : List Step} {x : Exchange σ}
    {code : Option Int} {chunks : Stream → List Octets} (delivers : Delivers code chunks x.peer)
    (texts : ∀ step ∈ steps, step.onStderr = true → step.output ≠ none)
    (satisfied : (x.takeSteps limit 1 steps).verdict = none)
    (closes : Step.closesLast steps = true)
    : (playSteps limit steps x).1 = .passed code
        ∧ Drained (fun stream => x.session.pending stream ++ (chunks stream).flatten) code steps
            (playSteps limit steps x).2.session := by
  have closed := ((x.takeSteps limit 1 steps).exchange.closeCalls_closed limit steps.length).2
  obtain ⟨passed, exited, come⟩ := Exchange.close_delivered delivers satisfied closes
  rw [playSteps_of_closed satisfied closes]
  refine ⟨?_, exited, ?_⟩
  · dsimp only
    rw [passed]
    exact congrArg Verdict.passed exited
  · intro stream
    have leaves := closed.leaves stream
    rw [passed] at leaves
    dsimp only
    rw [leaves, ← come stream, playCalls_of_closed satisfied closes, received_append,
      ← List.append_assoc, Exchange.come_of_satisfied texts satisfied, List.append_assoc]

/-- Whether a play passes, and where it fails, depends only on all that comes on each stream, not
on how it is cut into chunks. No step may expect output at will: that takes what there is.
-/
theorem play_outcome (limit : Option Duration) (scenario : Scenario) (x : Exchange σ)
    {code : Option Int} {chunks : Stream → List Octets} (delivers : Delivers code chunks x.peer)
    (texts : ∀ step ∈ scenario.steps, step.onStderr = true → step.output ≠ none)
    : PlayOutcome (fun stream => x.session.pending stream ++ (chunks stream).flatten) code
        scenario.steps (written (playCalls limit scenario.steps x)) (play limit scenario x).1
        (play limit scenario x).2.session := by
  unfold play
  cases came : (x.takeSteps limit 1 scenario.steps).verdict with
  | none =>
      obtain ⟨passed, sent⟩ := playSteps_of_satisfied delivers came
      have meets := Exchange.meets_of_satisfied delivers texts came
      exact {
        passes := iff_of_true passed meets
        inputs := fun _ => sent
        exits := by
          intro before last _ split closes
          refine playSteps_drained delivers texts came ?_
          rw [split, Step.closesLast, List.getLast?_concat]
          exact closes
        fails := fun unmet => absurd meets unmet
      }
  | some verdict =>
      have first := Exchange.firstUnmet_of_stopped delivers texts came
      have unmet := first.not_meets
      rw [playSteps_of_stopped came]
      exact {
        passes := iff_of_false first.not_passed unmet
        inputs := fun meets => absurd meets unmet
        exits := fun meets => absurd meets unmet
        fails := fun _ => first
      }

/-- Two texts that come in pieces, the first partly before the play and with an empty chunk, are
met, so the play passes with the exit code; what came behind the second is left.
-/
theorem play_outcome_in_pieces
    : let pieces : Stream → List Octets
        | .stdout => [[], [98, 10]]
        | .stderr => [[99], [10, 100]]
      let peer : Canned :=
        { stdout := (pieces .stdout).map .chunk, stderr := (pieces .stderr).map .chunk,
          exitCode := some 3 }
      let scenario : Scenario :=
        { name := "pieces",
          steps :=
            [{ input := some "go\n", output := some "ab\n" },
              { output := some "c\n", onStderr := true, closes := true }] }
      let last := play none scenario ⟨{ stdout := [97] }, peer⟩
      Delivers (some 3) pieces peer
        ∧ (∀ step ∈ scenario.steps, step.onStderr = true → step.output ≠ none)
        ∧ last.1 = .passed (some 3)
        ∧ last.2.session.pending .stderr = [100] := by
  intro pieces peer scenario last
  have holds : peer.Holds (some 3) pieces := {
    queued := by intro stream; cases stream <;> rfl
    ends := rfl
    exits := rfl
    takes := rfl
    waits := rfl
  }
  have texts : ∀ step ∈ scenario.steps, step.onStderr = true → step.output ≠ none := by decide
  have meets
      : Meets
          (fun stream => Session.pending { stdout := [97] } stream ++ (pieces stream).flatten)
          scenario.steps := by
    intro stream
    cases stream <;> decide
  have outcome := play_outcome none scenario ⟨{ stdout := [97] }, peer⟩ holds.delivers texts
  have split := (List.dropLast_concat_getLast (l := scenario.steps) (by decide)).symm
  obtain ⟨passed, drained⟩ := outcome.exits meets split rfl
  refine ⟨holds.delivers, texts, passed, ?_⟩
  have rest : [99, 10] ++ [100] = [99, 10] ++ last.2.session.pending .stderr :=
    drained.left .stderr
  exact (List.append_cancel_left rest).symm

end Dialogue
