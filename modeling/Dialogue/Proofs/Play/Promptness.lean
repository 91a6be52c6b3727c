import Dialogue.Proofs.Play.CallOrder
import Dialogue.Proofs.Play.Draining

/-!
When a play reads. A step reads only while it cannot be judged: a text while the pending octets are
a beginning of it and not all of it, any output while nothing is pending. So a step is judged with
the first chunk that decides it, and if chunks have octets, it reads no more often than octets are
missing at its start.
-/

namespace Dialogue

-----------------------------------------------------------------------------------------
-- What is read, and where
-----------------------------------------------------------------------------------------

/-- The reads among calls, each with its stream and limit. -/
def readsOf (calls : List Call) : List (Stream × Option Duration) :=
  calls.filterMap Call.read?

section Steps

variable {σ : Type} [Peer σ]

/-- What a read for a text finds: so far these calls were made, the step goes on with the wait for
the text, and pending is what was pending at its start with all that has come since.
-/
structure FoundBy (limit : Option Duration) (number : Nat) (step : Step) (stream : Stream)
    (expected : String) (begun : Exchange σ) (earlier : List Call) (found : Exchange σ)
    : Prop where
  answered : Answered begun.peer earlier found.peer
  goesOn
    : begun.takeStep limit number step = found.awaitText limit number stream expected
  pending : found.session.pending stream = begun.session.come stream earlier

/-- How a step reads that expects a text. -/
structure TextReads (limit : Option Duration) (number : Nat) (step : Step) (stream : Stream)
    (expected : String) (begun : Exchange σ) : Prop where
  /-- A read is one of the stream, where the pending octets begin the text and are not all of it. -/
  needed
    : ∀ {earlier later : List Call} {asked : Stream} {bound : Option Duration}
        {answer : Reception},
        begun.stepCalls limit number step = earlier ++ .receive asked bound answer :: later
        → asked = stream
          ∧ ∃ found,
              FoundBy limit number step stream expected begun earlier found
                ∧ found.session.pending stream <+: Text.octets expected
                ∧ found.session.pending stream ≠ Text.octets expected
  /-- A text that is all pending is not read for, nor one that what is pending contradicts. -/
  settled
    : Text.octets expected <+: begun.session.pending stream
        ∨ ¬ begun.session.pending stream <+: Text.octets expected
      → readsOf (begun.stepCalls limit number step) = []
  /-- If every chunk has octets, there are no more reads than octets are missing. -/
  few
    : (∀ {asked : Stream} {bound : Option Duration} {octets : Octets},
        .receive asked bound (.chunk octets) ∈ begun.stepCalls limit number step
        → octets ≠ [])
      → (readsOf (begun.stepCalls limit number step)).length
        ≤ (Text.octets expected).length - (begun.session.pending stream).length
  /-- The chunk with which the text is there is the last one, and the step is satisfied. -/
  met
    : ∀ {earlier later : List Call} {asked : Stream} {bound : Option Duration}
        {octets : Octets},
        let read := Call.receive asked bound (.chunk octets)
        begun.stepCalls limit number step = earlier ++ read :: later
        → Text.octets expected <+: begun.session.come stream (earlier ++ [read])
        → later = [] ∧ (begun.takeStep limit number step).verdict = none
  /-- The chunk with which what has come differs from the text is the last one, and the step ends
  the play with what has come.
  -/
  differs
    : ∀ {earlier later : List Call} {asked : Stream} {bound : Option Duration}
        {octets : Octets},
        let read := Call.receive asked bound (.chunk octets)
        let come := begun.session.come stream (earlier ++ [read])
        begun.stepCalls limit number step = earlier ++ read :: later
        → ¬ Text.octets expected <+: come
        → ¬ come <+: Text.octets expected
        → later = []
          ∧ (begun.takeStep limit number step).verdict
            = some (.mismatch number stream expected (Text.shown come))

/-- How a step reads that expects any output: once at most, and only if nothing is pending. -/
structure OutputReads (limit : Option Duration) (number : Nat) (step : Step) (stream : Stream)
    (begun : Exchange σ) : Prop where
  once : (readsOf (begun.stepCalls limit number step)).length ≤ 1
  needed
    : begun.session.pending stream ≠ [] → readsOf (begun.stepCalls limit number step) = []

/-- How a step reads, by what it expects. -/
structure ReadsAsNeeded (limit : Option Duration) (number : Nat) (step : Step)
    (begun : Exchange σ) : Prop where
  nothing : step.expectation = none → readsOf (begun.stepCalls limit number step) = []
  text
    : ∀ {stream : Stream} {expected : String},
        step.expectation = some ⟨stream, some expected⟩
        → TextReads limit number step stream expected begun
  output
    : ∀ {stream : Stream},
        step.expectation = some ⟨stream, none⟩ → OutputReads limit number step stream begun

end Steps

-----------------------------------------------------------------------------------------
-- The reads of a wait for a text
-----------------------------------------------------------------------------------------

section Rules

variable {limit : Option Duration} {number : Nat} {stream : Stream} {expected : String}
  {session final : Session} {answers : List Reception} {verdict : Option Verdict}

/-- Octets that begin what is wanted and are not all of it are fewer. -/
theorem Undecided.length_lt {wanted pending : Octets} (undecided : Undecided wanted pending)
    : pending.length < wanted.length := by
  refine Nat.lt_of_le_of_ne undecided.begins.length_le fun same => ?_
  exact undecided.ne (undecided.begins.eq_of_length same)

/-- Where an answer comes to a wait for a text, the text is undecided, pending is what was pending
at the start with what the answers before brought, and the wait goes on by the rules. Witness:
induction on the answers before; each of them is a chunk.
-/
theorem TextAwaited.at_read {before after : List Reception} {answer : Reception}
    (awaited : TextAwaited number stream expected session (before ++ answer :: after) final
      verdict)
    : ∃ middle : Session,
        middle.pending stream = session.pending stream ++ gathered before
          ∧ Undecided (Text.octets expected) (middle.pending stream)
          ∧ TextAwaited number stream expected middle (answer :: after) final verdict := by
  induction before generalizing session with
  | nil =>
      refine ⟨session, by simp, ?_, awaited⟩
      cases awaited with
      | chunk undecided _ => exact undecided
      | ended undecided => exact undecided
      | silent undecided => exact undecided
      | failed undecided _ => exact undecided
  | cons first before ih =>
      rw [List.cons_append] at awaited
      generalize rest : before ++ answer :: after = more at awaited
      cases awaited with
      | @chunk _ _ octets _ _ undecided awaited =>
          subst rest
          obtain ⟨middle, pending, undecided, later⟩ := ih awaited
          refine ⟨middle, ?_, undecided, later⟩
          rw [pending, Session.pending_append, gathered_chunk, List.append_assoc]
      | ended _ => simp at rest
      | silent _ => simp at rest
      | failed _ _ => simp at rest

/-- A text that is decided is not read for. -/
theorem TextAwaited.eq_nil_of_settled
    (awaited : TextAwaited number stream expected session answers final verdict)
    (settled
      : Text.octets expected <+: session.pending stream
        ∨ ¬ session.pending stream <+: Text.octets expected)
    : answers = [] := by
  have decided : ¬ Undecided (Text.octets expected) (session.pending stream) := by
    intro undecided
    exact settled.elim undecided.unmet (fun differs => differs undecided.begins)
  cases awaited with
  | met _ => rfl
  | apart _ _ => rfl
  | chunk undecided _ => exact absurd undecided decided
  | ended undecided => exact absurd undecided decided
  | silent undecided => exact absurd undecided decided
  | failed undecided _ => exact absurd undecided decided

/-- A text that is there is taken without a read. -/
theorem TextAwaited.of_met
    (awaited : TextAwaited number stream expected session answers final verdict)
    (met : Text.octets expected <+: session.pending stream)
    : answers = [] ∧ verdict = none := by
  obtain rfl := awaited.eq_nil_of_settled (.inl met)
  cases awaited with
  | met _ => exact ⟨rfl, rfl⟩
  | apart unmet _ => exact absurd met unmet

/-- What differs from a text is a mismatch without a read. -/
theorem TextAwaited.of_apart
    (awaited : TextAwaited number stream expected session answers final verdict)
    (unmet : ¬ Text.octets expected <+: session.pending stream)
    (differs : ¬ session.pending stream <+: Text.octets expected)
    : answers = []
        ∧ verdict
          = some (.mismatch number stream expected (Text.shown (session.pending stream))) := by
  obtain rfl := awaited.eq_nil_of_settled (.inr differs)
  cases awaited with
  | met begins => exact absurd begins unmet
  | apart _ _ => exact ⟨rfl, rfl⟩

/-- If every chunk has octets, a text is read for no more often than octets of it are missing.
Witness: induction on the reads; each chunk leaves fewer of them missing.
-/
theorem TextAwaited.length_le
    (awaited : TextAwaited number stream expected session answers final verdict)
    (filled : ∀ {octets}, .chunk octets ∈ answers → octets ≠ [])
    : answers.length ≤ (Text.octets expected).length - (session.pending stream).length := by
  induction awaited with
  | met _ => exact Nat.zero_le _
  | apart _ _ => exact Nat.zero_le _
  | @chunk session _ octets answers _ undecided _ ih =>
      have missing := undecided.length_lt
      have some : 0 < octets.length := List.length_pos_iff.mpr (filled List.mem_cons_self)
      have rest := ih fun member => filled (List.mem_cons_of_mem _ member)
      rw [Session.pending_append, List.length_append] at rest
      rw [List.length_cons]
      omega
  | ended undecided => exact Nat.sub_pos_of_lt undecided.length_lt
  | silent undecided => exact Nat.sub_pos_of_lt undecided.length_lt
  | failed undecided _ => exact Nat.sub_pos_of_lt undecided.length_lt

-----------------------------------------------------------------------------------------
-- The reads of a step
-----------------------------------------------------------------------------------------

/-- Calls read what they do in order. -/
theorem readsOf_append (calls more : List Call)
    : readsOf (calls ++ more) = readsOf calls ++ readsOf more :=
  List.filterMap_append

/-- Reads of a stream are so many reads of it. -/
theorem length_readsOf_reads (stream : Stream) (limit : Option Duration)
    (answers : List Reception)
    : (readsOf (Call.reads stream limit answers)).length = answers.length := by
  rw [readsOf, filterMap_read?_reads, List.length_replicate]

/-- Any output is read for once at most, and not at all if something is pending. -/
theorem OutputAwaited.reads_once
    (awaited : OutputAwaited number stream session answers final verdict)
    (limit : Option Duration)
    : (readsOf (Call.reads stream limit answers)).length ≤ 1
        ∧ (session.pending stream ≠ []
          → readsOf (Call.reads stream limit answers) = []) := by
  rw [length_readsOf_reads]
  cases awaited with
  | pending _ => exact ⟨Nat.zero_le 1, fun _ => rfl⟩
  | chunk empty => exact ⟨Nat.le_refl 1, fun some => absurd empty some⟩
  | ended empty => exact ⟨Nat.le_refl 1, fun some => absurd empty some⟩
  | silent empty => exact ⟨Nat.le_refl 1, fun some => absurd empty some⟩
  | failed empty _ => exact ⟨Nat.le_refl 1, fun some => absurd empty some⟩

/-- Calls of which none is a read bring nothing. -/
theorem received_of_unread {calls : List Call} (unread : readsOf calls = []) (stream : Stream)
    : received stream calls = [] := by
  refine List.flatMap_eq_nil_iff.mpr ?_
  intro call member
  cases call with
  | send _ _ => rfl
  | wait _ => rfl
  | receive _ _ _ => cases List.filterMap_eq_nil_iff.mp unread _ member

/-- A read among calls that first read nothing and then a stream is one of that stream, after the
answers before its own.
-/
theorem Call.split_reads {sends earlier later : List Call} {asked : Stream}
    {bound : Option Duration} {answer : Reception} (unread : readsOf sends = [])
    (split : sends ++ reads stream limit answers = earlier ++ .receive asked bound answer :: later)
    : ∃ before after,
        answers = before ++ answer :: after
          ∧ earlier = sends ++ reads stream limit before
          ∧ later = reads stream limit after := by
  have apart : .receive asked bound answer ∉ sends := fun member => by
    cases List.filterMap_eq_nil_iff.mp unread _ member
  rcases List.append_eq_append_iff.mp split with ⟨front, rfl, parted⟩ | ⟨front, rfl, parted⟩
  · obtain ⟨before, rest, rfl, rfl, made⟩ := List.map_eq_append_iff.mp parted
    obtain ⟨same, after, rfl, head, rfl⟩ := List.map_eq_cons_iff.mp made
    cases head
    exact ⟨before, after, rfl, rfl, rfl⟩
  · cases front with
    | nil =>
        obtain ⟨same, after, rfl, head, rfl⟩ := List.map_eq_cons_iff.mp parted.symm
        cases head
        exact ⟨[], after, rfl, by simp [reads], rfl⟩
    | cons call front =>
        cases parted
        exact absurd (List.mem_append_right _ List.mem_cons_self) apart

/-- The calls of a step that expects a text: some without a read, which leave alone what is pending,
and then the reads with which the text is awaited, if it comes to that.
-/
theorem StepTaken.text_reads {step : Step} {calls : List Call}
    (taken : StepTaken limit number step session calls final verdict)
    (expects : step.expectation = some ⟨stream, some expected⟩)
    : ∃ sends answers,
        calls = sends ++ Call.reads stream limit answers
          ∧ readsOf sends = []
          ∧ (answers = []
              ∨ ∃ start : Session,
                  start.pending stream = session.pending stream
                    ∧ TextAwaited number stream expected start answers final verdict) := by
  cases taken with
  | quiet _ awaited =>
      rw [expects] at awaited
      cases awaited with
      | @text _ _ answers _ _ awaited =>
          exact ⟨[], answers, rfl, rfl, .inr ⟨_, by simp, awaited⟩⟩
  | @sent text _ _ _ _ awaited =>
      rw [expects] at awaited
      cases awaited with
      | @text _ _ answers _ _ awaited =>
          exact ⟨[.send text (.ok ())], answers, rfl, rfl, .inr ⟨_, by simp, awaited⟩⟩
  | @refused text error _ =>
      exact ⟨[.send text (.error error)], [], rfl, rfl, .inl rfl⟩

/-- The calls of a step that expects any output read as it is awaited. -/
theorem StepTaken.output_reads {step : Step} {calls : List Call}
    (taken : StepTaken limit number step session calls final verdict)
    (expects : step.expectation = some ⟨stream, none⟩)
    : (readsOf calls).length ≤ 1 ∧ (session.pending stream ≠ [] → readsOf calls = []) := by
  cases taken with
  | quiet _ awaited =>
      rw [expects] at awaited
      cases awaited with
      | output awaited =>
          obtain ⟨once, needed⟩ := awaited.reads_once limit
          exact ⟨once, fun some => needed (by simpa using some)⟩
  | sent _ awaited =>
      rw [expects] at awaited
      cases awaited with
      | output awaited =>
          obtain ⟨once, needed⟩ := awaited.reads_once limit
          exact ⟨once, fun some => needed (by simpa using some)⟩
  | refused _ => exact ⟨Nat.zero_le 1, fun _ => rfl⟩

/-- The calls of a step that expects nothing read nothing. -/
theorem StepTaken.no_reads {step : Step} {calls : List Call}
    (taken : StepTaken limit number step session calls final verdict)
    (expects : step.expectation = none)
    : readsOf calls = [] := by
  cases taken with
  | quiet _ awaited =>
      rw [expects] at awaited
      cases awaited
      rfl
  | sent _ awaited =>
      rw [expects] at awaited
      cases awaited
      rfl
  | refused _ => rfl

/-- Where a step that expects a text reads, the text is undecided by what has come since the step
began, and from there it is awaited by the rules. Witness: the calls are parted at the read.
-/
theorem StepTaken.at_read {step : Step} {calls earlier later : List Call} {asked : Stream}
    {bound : Option Duration} {answer : Reception}
    (taken : StepTaken limit number step session calls final verdict)
    (expects : step.expectation = some ⟨stream, some expected⟩)
    (split : calls = earlier ++ .receive asked bound answer :: later)
    : ∃ middle after,
        middle.pending stream = session.come stream earlier
          ∧ Undecided (Text.octets expected) (middle.pending stream)
          ∧ .receive asked bound answer :: later = Call.reads stream limit (answer :: after)
          ∧ TextAwaited number stream expected middle (answer :: after) final verdict := by
  obtain ⟨sends, answers, made, unread, awaits⟩ := taken.text_reads expects
  obtain ⟨before, after, rfl, rfl, rfl⟩ := Call.split_reads unread (made.symm.trans split)
  rcases awaits with none | ⟨start, pending, awaited⟩
  · simp at none
  · obtain ⟨middle, found, undecided, later⟩ := awaited.at_read
    refine ⟨middle, after, ?_, undecided, ?_, later⟩
    · rw [found, pending, Session.come_reads, Session.come, received_of_unread unread,
        List.append_nil]
    · rw [made, Call.reads, List.map_append, ← List.append_assoc] at split
      exact (List.append_cancel_left split).symm

/-- After a chunk the text is awaited by the rules, with the chunk behind what had come. -/
theorem StepTaken.after_chunk {step : Step} {calls earlier later : List Call} {asked : Stream}
    {bound : Option Duration} {octets : Octets}
    (taken : StepTaken limit number step session calls final verdict)
    (expects : step.expectation = some ⟨stream, some expected⟩)
    (split : calls = earlier ++ .receive asked bound (.chunk octets) :: later)
    : ∃ next after,
        next.pending stream
            = session.come stream (earlier ++ [.receive asked bound (.chunk octets)])
          ∧ later = Call.reads stream limit after
          ∧ TextAwaited number stream expected next after final verdict := by
  obtain ⟨middle, after, pending, -, reads, awaited⟩ := taken.at_read expects split
  obtain ⟨head, rfl⟩ := List.cons.inj reads
  cases head
  cases awaited with
  | chunk _ rest =>
      have come := session.come_reads stream earlier limit [.chunk octets]
      rw [gathered_chunk, gathered_nil, List.append_nil, ← pending] at come
      exact ⟨_, after, (Session.pending_append ..).trans come.symm, rfl, rest⟩

end Rules

section Plays

variable {σ : Type} [Peer σ]

/-- A step that expects a text reads for it only as it must. -/
theorem Exchange.textReads {limit : Option Duration} {number : Nat} {step : Step}
    {stream : Stream} {expected : String}
    (expects : step.expectation = some ⟨stream, some expected⟩) (begun : Exchange σ)
    : TextReads limit number step stream expected begun := by
  obtain ⟨answered, taken⟩ := begun.stepCalls_taken limit number step
  obtain ⟨sends, answers, made, unread, awaits⟩ := taken.text_reads expects
  have reads : (readsOf (begun.stepCalls limit number step)).length = answers.length := by
    rw [made, readsOf_append, unread, List.nil_append, length_readsOf_reads]
  exact {
    needed := by
      intro earlier later asked bound answer split
      obtain ⟨middle, after, pending, undecided, rest, awaited⟩ := taken.at_read expects split
      have same : asked = stream := (Call.receive.inj (List.cons.inj rest).1).1
      rw [split, rest] at answered
      obtain ⟨peer, first, second⟩ := answered.split
      exact ⟨same, ⟨middle, peer⟩, ⟨first, (awaited.determines second).symm, pending⟩,
        undecided.begins, undecided.ne⟩
    settled := by
      intro settled
      refine List.length_eq_zero_iff.mp (reads.trans (List.length_eq_zero_iff.mpr ?_))
      rcases awaits with none | ⟨start, pending, awaited⟩
      · exact none
      · exact awaited.eq_nil_of_settled (pending ▸ settled)
    few := by
      intro filled
      rw [reads]
      rcases awaits with rfl | ⟨start, pending, awaited⟩
      · exact Nat.zero_le _
      · rw [← pending]
        refine awaited.length_le fun {octets} member => ?_
        have among
            : Call.receive stream limit (.chunk octets) ∈ begun.stepCalls limit number step := by
          rw [made]
          exact List.mem_append_right _ (List.mem_map_of_mem member)
        exact filled among
    met := by
      intro earlier later asked bound octets read split met
      obtain ⟨next, after, pending, rfl, awaited⟩ := taken.after_chunk expects split
      obtain ⟨rfl, satisfied⟩ := awaited.of_met (pending ▸ met)
      exact ⟨rfl, satisfied⟩
    differs := by
      intro earlier later asked bound octets read come split unmet differs
      obtain ⟨next, after, pending, rfl, awaited⟩ := taken.after_chunk expects split
      obtain ⟨rfl, stopped⟩ := awaited.of_apart (pending ▸ unmet) (pending ▸ differs)
      rw [pending] at stopped
      exact ⟨rfl, stopped⟩
  }

/-- A step reads only as it must, by cases on what it expects. -/
theorem Exchange.readsAsNeeded (limit : Option Duration) (number : Nat) (step : Step)
    (begun : Exchange σ)
    : ReadsAsNeeded limit number step begun := by
  obtain ⟨-, taken⟩ := begun.stepCalls_taken limit number step
  exact {
    nothing := taken.no_reads
    text := fun expects => begun.textReads expects
    output := by
      intro stream expects
      obtain ⟨once, needed⟩ := taken.output_reads expects
      exact ⟨once, needed⟩
  }

-----------------------------------------------------------------------------------------
-- The reads of a play
-----------------------------------------------------------------------------------------

/-- The calls of a step whose turn comes stand in a play behind those of the steps before it. -/
theorem playCalls_at_step {limit : Option Duration} {steps before rest : List Step}
    {step : Step} {x : Exchange σ} (split : steps = before ++ step :: rest)
    (satisfied : (x.takeSteps limit 1 before).verdict = none)
    : ∃ later,
        playCalls limit steps x
          = x.stepsCalls limit 1 before
            ++ (x.takeSteps limit 1 before).exchange.stepCalls limit (before.length + 1) step
            ++ later := by
  obtain ⟨closing, parts, -, -⟩ := playCalls_parts limit steps x
  rw [parts, Exchange.flatten_turns, split, Exchange.stepsCalls_append satisfied,
    Nat.add_comm 1]
  cases came
      : ((x.takeSteps limit 1 before).exchange.takeStep limit (before.length + 1)
          step).verdict with
  | some verdict =>
      rw [Exchange.stepsCalls_cons_some came]
      exact ⟨closing, rfl⟩
  | none =>
      rw [Exchange.stepsCalls_cons_none came, ← List.append_assoc, List.append_assoc _ _ closing]
      exact ⟨_, rfl⟩

/-- Every step of a play whose turn comes reads only while it cannot be judged, and is judged with
the first chunk that decides it; with any peer, whatever is pending and whatever comes.
-/
theorem play_reads_as_needed {limit : Option Duration} {scenario : Scenario} {x : Exchange σ}
    {before rest : List Step} {step : Step} (split : scenario.steps = before ++ step :: rest)
    (satisfied : (x.takeSteps limit 1 before).verdict = none)
    : let begun := (x.takeSteps limit 1 before).exchange
      let number := before.length + 1
      (∃ later,
          playCalls limit scenario.steps x
            = x.stepsCalls limit 1 before ++ begun.stepCalls limit number step ++ later)
        ∧ ReadsAsNeeded limit number step begun :=
  ⟨playCalls_at_step split satisfied, Exchange.readsAsNeeded ..⟩

/-- Two octets of the text are pending when its turn comes. One chunk brings the third and the next
one a wrong fourth, so there are two reads, and the chunk behind them is left alone.
-/
theorem play_reads_as_needed_of_surplus
    : let first : Step := { input := some "go\n" }
      let second : Step := { output := some "cde\n", closes := true }
      let peer : Canned := { stdout := [.chunk [101], .chunk [120], .chunk [121]] }
      let x : Exchange Canned := ⟨{ stdout := [99, 100] }, peer⟩
      let begun := (x.takeSteps none 1 [first]).exchange
      (x.takeSteps none 1 [first]).verdict = none
        ∧ (readsOf (begun.stepCalls none 2 second)).length ≤ 2
        ∧ (begun.takeStep none 2 second).verdict
          = some (.mismatch 2 .stdout "cde\n" "cdex") := by
  intro first second peer x begun
  let scenario : Scenario := { name := "surplus", steps := [first, second] }
  have made : begun.stepCalls none 2 second
      = Call.reads .stdout none [.chunk [101], .chunk [120]] :=
    StepTaken.calls_eq
      (.quiet rfl (.text (.chunk ⟨by decide, by decide⟩ (.chunk ⟨by decide, by decide⟩
        (.apart (by decide) (by decide))))))
      (.receive rfl (.receive rfl (.nil _)))
  have satisfied : (x.takeSteps none 1 [first]).verdict = none := rfl
  have split : scenario.steps = [first] ++ second :: [] := rfl
  have reads : TextReads none 2 second .stdout "cde\n" begun :=
    (play_reads_as_needed split satisfied).2.text rfl
  refine ⟨rfl, reads.few fun member => ?_, ?_⟩
  · rw [made] at member
    obtain ⟨answer, among, same⟩ := List.mem_map.mp member
    cases same
    rintro rfl
    exact absurd among (by decide)
  · have last : begun.stepCalls none 2 second
        = [.receive .stdout none (.chunk [101])]
          ++ .receive .stdout none (.chunk [120]) :: [] :=
      made
    exact (reads.differs last (by decide) (by decide)).2

end Plays

-----------------------------------------------------------------------------------------
-- Another side that does not end
-----------------------------------------------------------------------------------------

/-- With another side that may go on for ever but has octets in each of its chunks, every wait for a
text comes to an end, after no more reads than octets are missing. Witness: strong induction on the
octets that are missing; each chunk leaves fewer.
-/
theorem Conduct.decides_text {σ : Type} {conduct : Conduct σ}
    (filled
      : ∀ {state next : σ} {stream : Stream} {limit : Option Duration} {octets : Octets},
          conduct.receive state stream limit = (.chunk octets, next) → octets ≠ [])
    (limit : Option Duration) (number : Nat) (stream : Stream) (expected : String)
    (session : Session) (state : σ)
    : ∃ answers final verdict last,
        TextAwaited number stream expected session answers final verdict
          ∧ conduct.Answers state (Call.reads stream limit answers) last
          ∧ answers.length
            ≤ (Text.octets expected).length - (session.pending stream).length := by
  generalize missing : (Text.octets expected).length - (session.pending stream).length = count
  induction count using Nat.strongRecOn generalizing session state with
  | ind count ih =>
      by_cases met : Text.octets expected <+: session.pending stream
      · exact ⟨[], _, _, state, .met met, .nil state, Nat.zero_le _⟩
      by_cases begins : session.pending stream <+: Text.octets expected
      · have undecided : Undecided (Text.octets expected) (session.pending stream) :=
          ⟨met, begins⟩
        have some := undecided.length_lt
        rcases came : conduct.receive state stream limit with ⟨answer, next⟩
        cases answer with
        | chunk octets =>
            have long : 0 < octets.length := List.length_pos_iff.mpr (filled came)
            have left
                : (Text.octets expected).length
                    - ((session.append stream octets).pending stream).length
                  < count := by
              rw [Session.pending_append, List.length_append]
              omega
            obtain ⟨answers, final, verdict, last, awaited, answered, few⟩ :=
              ih _ left (session.append stream octets) next rfl
            refine ⟨.chunk octets :: answers, final, verdict, last, .chunk undecided awaited,
              .receive came answered, ?_⟩
            exact Nat.lt_of_le_of_lt few left
        | ended =>
            refine ⟨[.ended], _, _, next, .ended undecided, .receive came (.nil next), ?_⟩
            exact missing ▸ Nat.sub_pos_of_lt some
        | failed error =>
            have once : 1 ≤ count := missing ▸ Nat.sub_pos_of_lt some
            by_cases quiet : ∃ waited, error = .silence waited
            · obtain ⟨waited, rfl⟩ := quiet
              exact ⟨[.failed (.silence waited)], _, _, next, .silent undecided,
                .receive came (.nil next), once⟩
            · have loud : ∀ waited, error ≠ .silence waited :=
                fun waited same => quiet ⟨waited, same⟩
              exact ⟨[.failed error], _, _, next, .failed undecided loud,
                .receive came (.nil next), once⟩
      · exact ⟨[], _, _, state, .apart met begins, .nil state, Nat.zero_le _⟩

end Dialogue
