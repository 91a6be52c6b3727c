import Dialogue.Proofs.Play.Rules

/-!
A play follows the rules, and the rules determine it: the calls that a run of the peer answered
lead from a session to the turn that is taken, and to no other.
-/

namespace Dialogue

variable {σ : Type} [Peer σ]

/-- Octets that have neither met what is wanted nor gone astray are undecided. -/
theorem undecided_of_not {wanted pending : Octets} (unmet : ¬ wanted.isPrefixOf pending = true)
    (begins : ¬ (!pending.isPrefixOf wanted) = true)
    : Undecided wanted pending where
  unmet := by simpa only [List.isPrefixOf_iff_prefix] using unmet
  begins := by
    simpa only [Bool.not_eq_true', Bool.not_eq_false, List.isPrefixOf_iff_prefix] using begins

-----------------------------------------------------------------------------------------
-- The wait for a text
-----------------------------------------------------------------------------------------

/-- A text that has come is taken. -/
theorem Exchange.awaitText_of_met {stream : Stream} {expected : String} {x : Exchange σ}
    (met : Text.octets expected <+: x.session.pending stream) (limit : Option Duration)
    (number : Nat)
    : x.awaitText limit number stream expected
      = goOn ⟨x.session.takeText stream expected, x.peer⟩ := by
  have whole := List.prefix_iff_eq_take.mp met
  rw [awaitText]
  simp only [List.isPrefixOf_iff_prefix.mpr met, ↓reduceIte, Session.takeText, Session.consume]
  rw [← whole]

/-- Octets that have gone astray are a mismatch. -/
theorem Exchange.awaitText_of_apart {stream : Stream} {expected : String} {x : Exchange σ}
    (unmet : ¬ Text.octets expected <+: x.session.pending stream)
    (differs : ¬ x.session.pending stream <+: Text.octets expected) (limit : Option Duration)
    (number : Nat)
    : x.awaitText limit number stream expected = x.stopMismatch number stream expected := by
  rw [awaitText]
  simp only [List.isPrefixOf_iff_prefix, unmet, differs, Bool.not_eq_true', ← Bool.not_eq_true,
    not_false_eq_true, if_true, if_false]

/-- While a text is undecided, the next answer of the peer says how it goes on. -/
theorem Exchange.awaitText_of_undecided {stream : Stream} {expected : String} {x : Exchange σ}
    (undecided : Undecided (Text.octets expected) (x.session.pending stream))
    (limit : Option Duration) (number : Nat)
    : x.awaitText limit number stream expected
      = match Peer.receive x.peer stream limit with
        | (.chunk octets, peer) =>
          awaitText limit number stream expected ⟨x.session.append stream octets, peer⟩
        | (.ended, peer) => stopMismatch ⟨x.session, peer⟩ number stream expected
        | (.failed (.silence waited), peer) =>
          stopTimeout ⟨x.session, peer⟩ number stream expected waited
        | (.failed error, peer) => stop ⟨x.session, peer⟩ (.broken number error.message) := by
  rw [awaitText]
  simp only [List.isPrefixOf_iff_prefix, undecided.unmet, undecided.begins, Bool.not_eq_true',
    ← Bool.not_eq_true, not_true_eq_false, if_false]
  split
  · next came => rw [came]
  · next came => rw [came]
  · next came => rw [came]
  · next error peer loud came =>
      rw [came]
      cases error with
      | silence waited => exact absurd rfl (loud waited)
      | _ => rfl

/-- A text is awaited by the rules. Witness: induction on the reads that are made. -/
theorem Exchange.awaitText_follows (limit : Option Duration) (number : Nat) (stream : Stream)
    (expected : String) (x : Exchange σ)
    : ∃ answers,
        Answered x.peer (Call.reads stream limit answers)
            (x.awaitText limit number stream expected).exchange.peer
          ∧ TextAwaited number stream expected x.session answers
              (x.awaitText limit number stream expected).exchange.session
              (x.awaitText limit number stream expected).verdict := by
  fun_induction awaitText limit number stream expected x with
  | case1 x wanted pending begins octets session taken =>
      have met : Text.octets expected <+: x.session.pending stream :=
        List.isPrefixOf_iff_prefix.mp begins
      have whole : octets = Text.octets expected := by
        rw [List.prefix_iff_eq_take.mp met]
        exact (Prod.mk.inj taken).1.symm
      refine ⟨[], .nil _, ?_⟩
      rw [whole, ← (Prod.mk.inj taken).2]
      exact .met met
  | case2 x wanted pending unmet differs =>
      refine ⟨[], .nil _, .apart ?_ ?_⟩
      · simpa only [List.isPrefixOf_iff_prefix] using unmet
      · simpa only [Bool.not_eq_true', ← Bool.not_eq_true, List.isPrefixOf_iff_prefix]
          using differs
  | case3 x wanted pending unmet begins octets next came ih =>
      obtain ⟨answers, answered, awaited⟩ := ih
      exact ⟨.chunk octets :: answers, .receive came answered,
        .chunk (undecided_of_not unmet begins) awaited⟩
  | case4 x wanted pending unmet begins next came =>
      exact ⟨[.ended], .receive came (.nil _), .ended (undecided_of_not unmet begins)⟩
  | case5 x wanted pending unmet begins waited next came =>
      exact ⟨[.failed (.silence waited)], .receive came (.nil _),
        .silent (undecided_of_not unmet begins)⟩
  | case6 x wanted pending unmet begins error next loud came =>
      exact ⟨[.failed error], .receive came (.nil _),
        .failed (undecided_of_not unmet begins) loud⟩

/-- The rules for a text determine the turn, by induction on the rules. -/
theorem TextAwaited.determines {number : Nat} {stream : Stream} {expected : String}
    {session final : Session} {answers : List Reception} {verdict : Option Verdict}
    (awaited : TextAwaited number stream expected session answers final verdict)
    {limit : Option Duration} {peer last : σ}
    (answered : Answered peer (Call.reads stream limit answers) last)
    : Exchange.awaitText limit number stream expected ⟨session, peer⟩
      = ⟨⟨final, last⟩, verdict⟩ := by
  induction awaited generalizing peer with
  | met begins =>
      cases answered.eq_of_nil
      exact Exchange.awaitText_of_met begins limit number
  | apart unmet differs =>
      cases answered.eq_of_nil
      exact Exchange.awaitText_of_apart unmet differs limit number
  | chunk undecided rest ih =>
      cases answered with
      | receive made answered =>
          rw [Exchange.awaitText_of_undecided undecided, made]
          exact ih answered
  | ended undecided =>
      cases answered with
      | receive made answered =>
          cases answered.eq_of_nil
          rw [Exchange.awaitText_of_undecided undecided, made]
          rfl
  | silent undecided =>
      cases answered with
      | receive made answered =>
          cases answered.eq_of_nil
          rw [Exchange.awaitText_of_undecided undecided, made]
          rfl
  | @failed session error undecided loud =>
      cases answered with
      | receive made answered =>
          cases answered.eq_of_nil
          rw [Exchange.awaitText_of_undecided undecided, made]
          cases error with
          | silence waited => exact absurd rfl (loud waited)
          | _ => rfl


-----------------------------------------------------------------------------------------
-- The wait for any output, and for an expectation
-----------------------------------------------------------------------------------------

/-- Any output is awaited by the rules, by cases on what is pending and on the answer. -/
theorem Exchange.awaitAny_follows (limit : Option Duration) (number : Nat) (stream : Stream)
    (x : Exchange σ)
    : ∃ answers,
        Answered x.peer (Call.reads stream limit answers)
            (x.awaitAny limit number stream).exchange.peer
          ∧ OutputAwaited number stream x.session answers
              (x.awaitAny limit number stream).exchange.session
              (x.awaitAny limit number stream).verdict := by
  fun_cases awaitAny limit number stream x with
  | case1 empty octets next came =>
      exact ⟨[.chunk octets], .receive came (.nil _), .chunk empty⟩
  | case2 empty next came => exact ⟨[.ended], .receive came (.nil _), .ended empty⟩
  | case3 empty waited next came =>
      exact ⟨[.failed (.silence waited)], .receive came (.nil _), .silent empty⟩
  | case4 empty error next loud came =>
      exact ⟨[.failed error], .receive came (.nil _), .failed empty loud⟩
  | case5 some => exact ⟨[], .nil _, .pending some⟩

/-- The rules for any output determine the turn, by cases on the rules. -/
theorem OutputAwaited.determines {number : Nat} {stream : Stream}
    {session final : Session} {answers : List Reception} {verdict : Option Verdict}
    (awaited : OutputAwaited number stream session answers final verdict)
    {limit : Option Duration} {peer last : σ}
    (answered : Answered peer (Call.reads stream limit answers) last)
    : Exchange.awaitAny limit number stream ⟨session, peer⟩ = ⟨⟨final, last⟩, verdict⟩ := by
  cases awaited with
  | pending some =>
      cases answered.eq_of_nil
      exact if_neg some
  | chunk empty =>
      cases answered with
      | receive made answered =>
          cases answered.eq_of_nil
          simp only [Exchange.awaitAny, empty, if_true, made]
          rfl
  | ended empty =>
      cases answered with
      | receive made answered =>
          cases answered.eq_of_nil
          simp only [Exchange.awaitAny, empty, if_true, made]
          rfl
  | silent empty =>
      cases answered with
      | receive made answered =>
          cases answered.eq_of_nil
          simp only [Exchange.awaitAny, empty, if_true, made]
          rfl
  | @failed error empty loud =>
      cases answered with
      | receive made answered =>
          cases answered.eq_of_nil
          simp only [Exchange.awaitAny, empty, if_true, made]
          rfl

/-- What a step expects is awaited by the rules, by cases on the expectation. -/
theorem Exchange.awaitExpectation_follows (limit : Option Duration) (number : Nat)
    (expectation : Option Expectation) (x : Exchange σ)
    : ∃ calls,
        Answered x.peer calls (x.awaitExpectation limit number expectation).exchange.peer
          ∧ ExpectationAwaited limit number x.session expectation calls
              (x.awaitExpectation limit number expectation).exchange.session
              (x.awaitExpectation limit number expectation).verdict := by
  match expectation with
  | none => exact ⟨[], .nil _, .nothing⟩
  | some ⟨stream, some expected⟩ =>
      obtain ⟨answers, answered, awaited⟩ := x.awaitText_follows limit number stream expected
      exact ⟨_, answered, .text awaited⟩
  | some ⟨stream, none⟩ =>
      obtain ⟨answers, answered, awaited⟩ := x.awaitAny_follows limit number stream
      exact ⟨_, answered, .output awaited⟩

/-- The rules for an expectation determine the turn, by cases on the rules. -/
theorem ExpectationAwaited.determines {limit : Option Duration}
    {number : Nat} {expectation : Option Expectation} {session final : Session}
    {calls : List Call} {verdict : Option Verdict}
    (awaited : ExpectationAwaited limit number session expectation calls final verdict)
    {peer last : σ} (answered : Answered peer calls last)
    : Exchange.awaitExpectation limit number expectation ⟨session, peer⟩
      = ⟨⟨final, last⟩, verdict⟩ := by
  cases awaited with
  | nothing =>
      cases answered.eq_of_nil
      rfl
  | text awaited => exact awaited.determines answered
  | output awaited => exact awaited.determines answered

-----------------------------------------------------------------------------------------
-- Steps
-----------------------------------------------------------------------------------------

/-- Without an input the expectation is awaited at once. -/
theorem Exchange.takeStep_of_quiet {step : Step} (input : step.input = none)
    (limit : Option Duration) (number : Nat) (x : Exchange σ)
    : x.takeStep limit number step
      = awaitExpectation limit number step.expectation
          ⟨x.session.noteComment step.comment, x.peer⟩ := by
  unfold takeStep
  rw [input]
  cases step.comment <;> rfl

/-- After the input was taken the expectation is awaited. -/
theorem Exchange.takeStep_of_sent {step : Step} {text : String} {x : Exchange σ} {next : σ}
    (input : step.input = some text) (made : Peer.send x.peer text = (.ok (), next))
    (limit : Option Duration) (number : Nat)
    : x.takeStep limit number step
      = awaitExpectation limit number step.expectation
          ⟨(x.session.noteComment step.comment).noteSent text, next⟩ := by
  unfold takeStep
  rw [input]
  cases step.comment <;> simp only [sendInput, noteComment, mapSession, made] <;> rfl

/-- An input that is not taken ends the play. -/
theorem Exchange.takeStep_of_refused {step : Step} {text : String} {x : Exchange σ} {next : σ}
    {error : PeerError} (input : step.input = some text)
    (made : Peer.send x.peer text = (.error error, next)) (limit : Option Duration)
    (number : Nat)
    : x.takeStep limit number step
      = stop ⟨(x.session.noteComment step.comment).noteSent text, next⟩
          (.broken number error.message) := by
  unfold takeStep
  rw [input]
  cases step.comment <;> simp only [sendInput, noteComment, mapSession, made] <;> rfl

/-- A step is taken by the rules, by cases on its input and on the answer to it. -/
theorem Exchange.takeStep_follows (limit : Option Duration) (number : Nat) (step : Step)
    (x : Exchange σ)
    : ∃ calls,
        Answered x.peer calls (x.takeStep limit number step).exchange.peer
          ∧ StepTaken limit number step x.session calls
              (x.takeStep limit number step).exchange.session
              (x.takeStep limit number step).verdict := by
  cases input : step.input with
  | none =>
      rw [takeStep_of_quiet input]
      obtain ⟨calls, answered, awaited⟩ := awaitExpectation_follows limit number
        step.expectation ⟨x.session.noteComment step.comment, x.peer⟩
      exact ⟨calls, answered, .quiet input awaited⟩
  | some text =>
      rcases made : Peer.send x.peer text with ⟨answer, next⟩
      cases answer with
      | ok =>
          rw [takeStep_of_sent input made]
          obtain ⟨calls, answered, awaited⟩ := awaitExpectation_follows limit number
            step.expectation ⟨(x.session.noteComment step.comment).noteSent text, next⟩
          exact ⟨_, .send made answered, .sent input awaited⟩
      | error error =>
          rw [takeStep_of_refused input made]
          exact ⟨_, .send made (.nil _), .refused input⟩

/-- The rules for a step determine the turn, by cases on the rules. -/
theorem StepTaken.determines {limit : Option Duration} {number : Nat}
    {step : Step} {session final : Session} {calls : List Call} {verdict : Option Verdict}
    (taken : StepTaken limit number step session calls final verdict) {peer last : σ}
    (answered : Answered peer calls last)
    : Exchange.takeStep limit number step ⟨session, peer⟩ = ⟨⟨final, last⟩, verdict⟩ := by
  cases taken with
  | quiet input awaited =>
      rw [Exchange.takeStep_of_quiet input]
      exact awaited.determines answered
  | sent input awaited =>
      cases answered with
      | send made answered =>
          rw [Exchange.takeStep_of_sent input made]
          exact awaited.determines answered
  | refused input =>
      cases answered with
      | send made answered =>
          cases answered.eq_of_nil
          rw [Exchange.takeStep_of_refused input made]
          rfl

/-- Steps are taken by the rules, by induction on the steps. -/
theorem Exchange.takeSteps_follows (limit : Option Duration) (number : Nat) (steps : List Step)
    (x : Exchange σ)
    : ∃ calls,
        Answered x.peer calls (x.takeSteps limit number steps).exchange.peer
          ∧ StepsTaken limit number steps x.session calls
              (x.takeSteps limit number steps).exchange.session
              (x.takeSteps limit number steps).verdict := by
  induction steps generalizing number x with
  | nil => exact ⟨[], .nil _, .done⟩
  | cons step rest ih =>
      obtain ⟨calls, answered, taken⟩ := x.takeStep_follows limit number step
      rw [takeSteps]
      cases came : (x.takeStep limit number step).verdict with
      | some verdict =>
          rw [came] at taken
          refine ⟨calls, answered, ?_⟩
          dsimp only
          rw [came]
          exact .stopped taken
      | none =>
          rw [came] at taken
          obtain ⟨more, later, others⟩ :=
            ih (number + 1) (x.takeStep limit number step).exchange
          exact ⟨calls ++ more, answered.append later, .satisfied taken others⟩

/-- The rules for steps determine the turn, by induction on the rules. -/
theorem StepsTaken.determines {limit : Option Duration} {number : Nat}
    {steps : List Step} {session final : Session} {calls : List Call}
    {verdict : Option Verdict}
    (taken : StepsTaken limit number steps session calls final verdict) {peer last : σ}
    (answered : Answered peer calls last)
    : Exchange.takeSteps limit number ⟨session, peer⟩ steps = ⟨⟨final, last⟩, verdict⟩ := by
  induction taken generalizing peer with
  | done =>
      cases answered.eq_of_nil
      rfl
  | stopped taken => rw [Exchange.takeSteps, taken.determines answered]
  | satisfied taken _ ih =>
      obtain ⟨middle, first, second⟩ := answered.split
      rw [Exchange.takeSteps, taken.determines first]
      exact ih second

-----------------------------------------------------------------------------------------
-- The end of a play
-----------------------------------------------------------------------------------------

/-- A stream is gathered by the rules. Witness: induction on the reads that are made. -/
theorem Exchange.gather_follows (grace : Duration) (stream : Stream) (x : Exchange σ)
    : ∃ answers,
        Answered x.peer (Call.reads stream (some grace) answers) (x.gather grace stream).peer
          ∧ Gathered stream x.session answers (x.gather grace stream).session := by
  fun_induction gather grace stream x with
  | case1 x octets next came ih =>
      obtain ⟨answers, answered, gathered⟩ := ih
      exact ⟨.chunk octets :: answers, .receive came answered, .chunk gathered⟩
  | case2 x next came => exact ⟨[.ended], .receive came (.nil _), .ended⟩
  | case3 x error next came => exact ⟨[.failed error], .receive came (.nil _), .failed⟩

/-- The next answer of the peer says how a stream is gathered. -/
theorem Exchange.gather_eq (grace : Duration) (stream : Stream) (x : Exchange σ)
    : x.gather grace stream
      = match Peer.receive x.peer stream (some grace) with
        | (.chunk octets, peer) => gather grace stream ⟨x.session.append stream octets, peer⟩
        | (_, peer) => ⟨x.session, peer⟩ := by
  rw [gather]
  split <;> next came => rw [came]

/-- The rules for gathering determine the exchange, by induction on the rules. -/
theorem Gathered.determines {stream : Stream} {session final : Session}
    {answers : List Reception} (gathered : Gathered stream session answers final)
    {grace : Duration} {peer last : σ}
    (answered : Answered peer (Call.reads stream (some grace) answers) last)
    : Exchange.gather grace stream ⟨session, peer⟩ = ⟨final, last⟩ := by
  induction gathered generalizing peer with
  | chunk _ ih =>
      cases answered with
      | receive made answered =>
          rw [Exchange.gather_eq, made]
          exact ih answered
  | ended =>
      cases answered with
      | receive made answered =>
          cases answered.eq_of_nil
          rw [Exchange.gather_eq, made]
  | failed =>
      cases answered with
      | receive made answered =>
          cases answered.eq_of_nil
          rw [Exchange.gather_eq, made]

/-- The end is waited for by the rules, by cases on the answer to the wait. -/
theorem Exchange.close_follows (limit : Option Duration) (number : Nat) (x : Exchange σ)
    : ∃ calls,
        Answered x.peer calls (x.close limit number).exchange.peer
          ∧ Closed limit number x.session calls (x.close limit number).exchange.session
              (x.close limit number).verdict := by
  fun_cases close limit number x with
  | case1 error next made => exact ⟨_, .wait made (.nil _), .refused⟩
  | case2 code next made session y =>
      obtain ⟨out, outAnswered, stdout⟩ := y.gather_follows (graceOf limit) .stdout
      obtain ⟨err, errAnswered, stderr⟩ :=
        (y.gather (graceOf limit) .stdout).gather_follows (graceOf limit) .stderr
      exact ⟨_, .wait made (outAnswered.append errAnswered), .gathered stdout stderr⟩

/-- The rules for the end determine the turn, by cases on the rules. -/
theorem Closed.determines {limit : Option Duration} {number : Nat}
    {session final : Session} {calls : List Call} {verdict : Option Verdict}
    (closed : Closed limit number session calls final verdict) {peer last : σ}
    (answered : Answered peer calls last)
    : Exchange.close limit number ⟨session, peer⟩ = ⟨⟨final, last⟩, verdict⟩ := by
  cases closed with
  | refused =>
      cases answered with
      | wait made answered =>
          cases answered.eq_of_nil
          simp only [Exchange.close, made]
          rfl
  | gathered stdout stderr =>
      cases answered with
      | wait made answered =>
          obtain ⟨middle, first, second⟩ := answered.split
          simp only [Exchange.close, made]
          change Exchange.goOn (Exchange.gather _ .stderr
            (Exchange.gather _ .stdout ⟨session.noteExit _, _⟩)) = _
          rw [stdout.determines first, stderr.determines second]
          rfl

/-- Steps are played by the rules, by cases on how taking them and the end came out. -/
theorem playSteps_follows (limit : Option Duration) (steps : List Step)
    (x : Exchange σ)
    : ∃ calls,
        Answered x.peer calls (playSteps limit steps x).2.peer
          ∧ Played limit steps x.session calls (playSteps limit steps x).2.session
              (playSteps limit steps x).1 := by
  obtain ⟨calls, answered, taken⟩ := x.takeSteps_follows limit 1 steps
  unfold playSteps
  cases came : (x.takeSteps limit 1 steps).verdict with
  | some verdict =>
      rw [came] at taken
      simp only [came]
      exact ⟨calls, answered, .stopped taken⟩
  | none =>
      rw [came] at taken
      simp only [came]
      cases closes : Step.closesLast steps with
      | false => exact ⟨calls, answered, .passed taken closes⟩
      | true =>
          obtain ⟨more, waited, closed⟩ :=
            (x.takeSteps limit 1 steps).exchange.close_follows limit steps.length
          exact ⟨calls ++ more, answered.append waited, .closed taken closes closed⟩

/-- The rules for a play determine how it comes out, by cases on the rules. -/
theorem Played.determines {limit : Option Duration} {steps : List Step}
    {session final : Session} {calls : List Call} {verdict : Verdict}
    (played : Played limit steps session calls final verdict) {peer last : σ}
    (answered : Answered peer calls last)
    : playSteps limit steps ⟨session, peer⟩ = (verdict, ⟨final, last⟩) := by
  cases played with
  | stopped taken => simp only [playSteps, taken.determines answered]
  | passed taken goesOn =>
      simp only [playSteps, taken.determines answered, goesOn, Bool.false_eq_true, if_false]
  | closed taken closes closed =>
      obtain ⟨middle, first, second⟩ := answered.split
      simp only [playSteps, taken.determines first, closes, if_true, closed.determines second]

end Dialogue
