import Dialogue.Proofs.Child.Tracing

/-!
The life of a child, from its start through any calls and whatever the system answers. Its input is
closed by the first broken pipe or the first wait and is never written to again; which of the two
was there decides how later texts are answered. The exit code is asked for until it is known.
-/

namespace Dialogue

variable {ω : Type}

-----------------------------------------------------------------------------------------
-- What happened in a life
-----------------------------------------------------------------------------------------

namespace Deed

/-- The system was asked to write to the input. -/
def Writes (deed : Deed) : Prop :=
  ∃ octets answer, .write octets answer ∈ deed.effects

/-- A write to the input met a broken pipe. -/
def Breaks (deed : Deed) : Prop :=
  ∃ octets fault,
    .write octets (.error fault) ∈ deed.effects ∧ Fault.Means 32 .brokenPipe fault

/-- The child was waited for, whatever came of it. -/
def Waits (deed : Deed) : Prop :=
  ∃ answer, deed.call = .wait answer

/-- The child was waited for and told its exit code. -/
def Tells (deed : Deed) (code : Option Int) : Prop :=
  deed.call = .wait (.ok code)

/-- Whoever tells its exit code was waited for. -/
theorem Tells.waits {deed : Deed} {code : Option Int} (tells : deed.Tells code)
    : deed.Waits :=
  ⟨_, tells⟩

/-- A deed that does nothing but collect meets no broken pipe. -/
theorem not_breaks_of_collects {deed : Deed} {stream : Stream} {limit : Option Duration}
    (collects : ∀ effect ∈ deed.effects, ∃ answers, effect = .collect stream limit answers)
    : ¬ deed.Breaks := by
  rintro ⟨octets, fault, made, -⟩
  obtain ⟨answers, other⟩ := collects _ made
  cases other

end Deed

/-- What was asked of the system of a child that is let go of, with its exit code if it was known.
-/
inductive Releases : Option (Option Int) → List SystemCall → Prop
  | known {code : Option Int} : Releases (some code) []
  | running {answer : Except Fault (Option Int)}
    : Releases none [.hasEnded (.ok false), .kill, .wait answer]
  | over {ended : Except Fault Bool} {answer : Except Fault (Option Int)}
    (stopped : ended ≠ .ok false)
    : Releases none [.hasEnded ended, .wait answer]

-----------------------------------------------------------------------------------------
-- What a call changes
-----------------------------------------------------------------------------------------

namespace Child

variable {child next : Child ω} {deed : Deed}

/-- The input is closed by a broken pipe and by a wait, and by nothing else; by cases on the rules.
A wait that is answered from memory finds it closed.
-/
theorem Acts.inputOpen_iff (acts : child.Acts deed next)
    (implied : child.exitCode ≠ none → child.inputOpen = false)
    : next.inputOpen = false ↔ child.inputOpen = false ∨ deed.Breaks ∨ deed.Waits := by
  cases acts with
  | lost _ => simp [Deed.Breaks, Deed.Waits]
  | refused _ _ => simp [Deed.Breaks, Deed.Waits]
  | taken _ _ => simp [Deed.Breaks, Deed.Waits]
  | broken _ _ pipe => exact iff_of_true rfl (.inr (.inl ⟨_, _, List.mem_cons_self, pipe⟩))
  | failed _ _ other => simp [Deed.Breaks, Deed.Waits, other]
  | @received stream limit answer effects _ keeps collects =>
      have whole : ¬ Deed.Breaks ⟨.receive stream limit answer, effects⟩ :=
        Deed.not_breaks_of_collects collects
      simp [keeps.input, whole, Deed.Waits]
  | remembered known => simp [implied (by simp [known]), Deed.Waits]
  | ended _ => simp [Deed.Waits]
  | unanswered _ => simp [Deed.Waits]

/-- A child has stopped reading once a pipe was broken, by cases on the rules. -/
theorem Acts.readerGone_iff (acts : child.Acts deed next)
    : next.readerGone = true ↔ child.readerGone = true ∨ deed.Breaks := by
  cases acts with
  | lost _ => simp [Deed.Breaks]
  | refused _ _ => simp [Deed.Breaks]
  | taken _ _ => simp [Deed.Breaks]
  | broken _ _ pipe => exact iff_of_true rfl (.inr ⟨_, _, List.mem_cons_self, pipe⟩)
  | failed _ _ other => simp [Deed.Breaks, other]
  | @received stream limit answer effects _ keeps collects =>
      have whole : ¬ Deed.Breaks ⟨.receive stream limit answer, effects⟩ :=
        Deed.not_breaks_of_collects collects
      simp [keeps.gone, whole]
  | remembered _ => simp [Deed.Breaks]
  | ended _ => simp [Deed.Breaks, closing]
  | unanswered _ => simp [Deed.Breaks, closing]

/-- The exit code is known once a wait told it, by cases on the rules. -/
theorem Acts.exitCode_iff (acts : child.Acts deed next) (code : Option Int)
    : next.exitCode = some code ↔ child.exitCode = some code ∨ deed.Tells code := by
  cases acts with
  | lost _ => simp [Deed.Tells]
  | refused _ _ => simp [Deed.Tells]
  | taken _ _ => simp [Deed.Tells]
  | broken _ _ _ => simp [Deed.Tells]
  | failed _ _ _ => simp [Deed.Tells]
  | received keeps _ => simp [keeps.code, Deed.Tells]
  | remembered known => simp [known, Deed.Tells]
  | ended unknown => simp [unknown, Deed.Tells]
  | unanswered unknown => simp [Deed.Tells]

/-- Nothing is written to an input that is closed, and it stays so; by cases on the rules. -/
theorem Acts.silent (acts : child.Acts deed next) (closed : child.inputOpen = false)
    : next.inputOpen = false ∧ ¬ deed.Writes := by
  cases acts with
  | lost _ => simp [closed, Deed.Writes]
  | refused _ _ => simp [closed, Deed.Writes]
  | taken _ opened => simp [opened] at closed
  | broken _ opened _ => simp [opened] at closed
  | failed _ opened _ => simp [opened] at closed
  | received keeps collects =>
      refine ⟨keeps.input.trans closed, ?_⟩
      rintro ⟨octets, answer, made⟩
      obtain ⟨answers, other⟩ := collects _ made
      cases other
  | remembered _ => simp [closed, Deed.Writes]
  | ended _ => simp [Deed.Writes, closing]
  | unanswered _ => simp [Deed.Writes, closing]

end Child

/-- What a child that has gone through these calls since its start tells of them: what has closed
its input, and which exit code is known.
-/
structure Kept (before : List Deed) (child : Child ω) : Prop where
  closed : child.inputOpen = false ↔ ∃ deed ∈ before, deed.Breaks ∨ deed.Waits
  gone : child.readerGone = true ↔ ∃ deed ∈ before, deed.Breaks
  known : ∀ code, child.exitCode = some code ↔ ∃ deed ∈ before, deed.Tells code

namespace Kept

variable {before : List Deed} {child : Child ω}

/-- A child that was just started has gone through nothing. -/
theorem start (system : ω)
    : Kept [] ({ system } : Child ω) where
  closed := by simp
  gone := by simp
  known := by simp

/-- Whoever has told its exit code was waited for, so its input is closed. -/
theorem closed_of_known (kept : Kept before child) (known : child.exitCode ≠ none)
    : child.inputOpen = false := by
  obtain ⟨code, known⟩ := Option.ne_none_iff_exists'.mp known
  obtain ⟨deed, member, tells⟩ := (kept.known code).mp known
  exact kept.closed.mpr ⟨deed, member, .inr tells.waits⟩

end Kept

-----------------------------------------------------------------------------------------
-- Lives
-----------------------------------------------------------------------------------------

variable [ChildSystem ω]

/-- A child goes through these calls with their effects, from one state to another. -/
inductive Life : Child ω → List Deed → Child ω → Prop
  | nil (child : Child ω) : Life child [] child
  | cons {child next last : Child ω} {deed : Deed} {deeds : List Deed}
    (does : child.Does deed next) (later : Life next deeds last)
    : Life child (deed :: deeds) last

/-- What holds of a child that has gone through these calls since its start, and of whatever call is
made on it next.
-/
structure Governed (before : List Deed) (child : Child ω) : Prop where
  closed : child.inputOpen = false ↔ ∃ deed ∈ before, deed.Breaks ∨ deed.Waits
  implied : child.readerGone = true ∨ child.exitCode ≠ none → child.inputOpen = false
  silent
    : child.inputOpen = false
      → ∀ {later last},
          Life child later last → last.inputOpen = false ∧ ∀ deed ∈ later, ¬ deed.Writes
  lost
    : (∃ deed ∈ before, deed.Breaks)
      → ∀ {text answer effects next},
          child.Does ⟨.send text answer, effects⟩ next
          → answer = .ok () ∧ effects = [] ∧ next = child
  refused
    : (∀ deed ∈ before, ¬ deed.Breaks)
      → (∃ deed ∈ before, deed.Waits)
      → ∀ {text answer effects next},
          child.Does ⟨.send text answer, effects⟩ next
          → (∃ fault, answer = .error (.send fault)) ∧ effects = [] ∧ next = child
  survived
    : ∀ {text answer effects next octets fault},
        child.Does ⟨.send text answer, effects⟩ next
        → .write octets (.error fault) ∈ effects
        → ¬ Fault.Means 32 .brokenPipe fault
        → answer = .error (.send fault)
          ∧ next.inputOpen = true
          ∧ next = { child with system := next.system }
  remembered
    : ∀ {code},
        (∃ deed ∈ before, deed.Tells code)
        → ∀ {answer effects next},
            child.Does ⟨.wait answer, effects⟩ next
            → answer = .ok code ∧ effects = [] ∧ next = child
  asked
    : (∀ deed ∈ before, ∀ code, ¬ deed.Tells code)
      → ∀ {answer effects next},
          child.Does ⟨.wait answer, effects⟩ next
          → ∃ ended,
              effects = child.closing ++ [.wait ended]
                ∧ answer = ended.mapError .wait
                ∧ next.exitCode = ended.toOption
  received
    : ∀ {stream limit answer effects next},
        child.Does ⟨.receive stream limit answer, effects⟩ next → child.Keeps next
  released
    : Releases child.exitCode (child.traced []).release.calls
      ∧ (child.traced []).release.system = child.release

/-- Calls that are answered make up a life, by induction on them. -/
theorem Life.exists_of_answered {child last : Child ω} {calls : List Call}
    (answered : Answered child calls last)
    : ∃ deeds, deeds.map Deed.call = calls ∧ Life child deeds last := by
  induction calls generalizing child with
  | nil =>
      cases answered.eq_of_nil
      exact ⟨[], rfl, .nil _⟩
  | cons call calls ih =>
      have parted : Answered child ([call] ++ calls) last := answered
      obtain ⟨next, first, rest⟩ := parted.split
      obtain ⟨effects, -, does⟩ := Child.exists_acts first
      obtain ⟨deeds, same, later⟩ := ih rest
      exact ⟨⟨call, effects⟩ :: deeds, by simp [same], .cons does later⟩

/-- An input that is closed stays so and is not written to, by induction on the life. -/
theorem Life.silent {child last : Child ω} {deeds : List Deed} (life : Life child deeds last)
    (closed : child.inputOpen = false)
    : last.inputOpen = false ∧ ∀ deed ∈ deeds, ¬ deed.Writes := by
  induction life with
  | nil => exact ⟨closed, by simp⟩
  | cons does _ ih =>
      obtain ⟨still, quiet⟩ := does.acts.silent closed
      obtain ⟨last, rest⟩ := ih still
      exact ⟨last, List.forall_mem_cons.mpr ⟨quiet, rest⟩⟩

/-- A child that is let go of is ended by force only if its exit code is not known and it still
runs, and is then waited for.
-/
theorem Child.releases (child : Child ω)
    : Releases child.exitCode (child.traced []).release.calls := by
  unfold Child.release
  cases known : child.exitCode with
  | some code =>
      simp only [Child.traced, known]
      exact .known
  | none =>
      rcases came : ChildSystem.hasEnded child.system with ⟨ended, system⟩
      simp only [Child.traced, known, ChildSystem.hasEnded, came]
      rcases ended with fault | ⟨_ | _⟩
      · exact .over (by simp)
      · exact .running
      · exact .over (by simp)

namespace Kept

variable {before deeds : List Deed} {child next last : Child ω} {deed : Deed}

/-- A call adds to what was gone through what it changes. -/
theorem step (kept : Kept before child) (does : child.Does deed next)
    : Kept (before ++ [deed]) next where
  closed := by
    rw [does.acts.inputOpen_iff kept.closed_of_known, kept.closed]
    simp [or_and_right, exists_or]
  gone := by
    rw [does.acts.readerGone_iff, kept.gone]
    simp [or_and_right, exists_or]
  known code := by
    rw [does.acts.exitCode_iff, kept.known]
    simp [or_and_right, exists_or]

/-- What is gone through later is added, by induction on it. -/
theorem life (kept : Kept before child) (later : Life child deeds last)
    : Kept (before ++ deeds) last := by
  induction later generalizing before with
  | nil => rwa [List.append_nil]
  | cons does _ ih =>
      rw [List.append_cons]
      exact ih (kept.step does)

/-- What a child tells of what it has gone through governs what it does next, by cases on the rules
for each call.
-/
theorem governed (kept : Kept before child)
    : Governed before child where
  closed := kept.closed
  implied := by
    rintro (gone | known)
    · obtain ⟨deed, member, breaks⟩ := kept.gone.mp gone
      exact kept.closed.mpr ⟨deed, member, .inl breaks⟩
    · exact kept.closed_of_known known
  silent closed _ _ later := later.silent closed
  lost broken _ _ _ _ does := by
    have gone := kept.gone.mpr broken
    cases does.acts with
    | lost _ => exact ⟨rfl, rfl, rfl⟩
    | refused reads _ => simp [reads] at gone
    | taken reads _ => simp [reads] at gone
    | broken reads _ _ => simp [reads] at gone
    | failed reads _ _ => simp [reads] at gone
  refused whole waited _ _ _ _ does := by
    obtain ⟨deed, member, waits⟩ := waited
    have closed := kept.closed.mpr ⟨deed, member, .inr waits⟩
    cases does.acts with
    | lost gone =>
        obtain ⟨deed, member, breaks⟩ := kept.gone.mp gone
        exact absurd breaks (whole deed member)
    | refused _ _ => exact ⟨⟨_, rfl⟩, rfl, rfl⟩
    | taken _ opened => simp [opened] at closed
    | broken _ opened _ => simp [opened] at closed
    | failed _ opened _ => simp [opened] at closed
  survived does made other := by
    cases does.acts with
    | lost _ => cases made
    | refused _ _ => cases made
    | taken _ _ => simp at made
    | broken _ _ pipe =>
        obtain ⟨rfl, rfl⟩ : _ ∧ _ := by simpa using made
        exact absurd pipe other
    | failed _ opened _ =>
        obtain ⟨rfl, rfl⟩ : _ ∧ _ := by simpa using made
        exact ⟨rfl, opened, rfl⟩
  remembered told _ _ _ does := by
    have known := (kept.known _).mpr told
    cases does.acts with
    | remembered same =>
        cases same.symm.trans known
        exact ⟨rfl, rfl, rfl⟩
    | ended unknown => simp [unknown] at known
    | unanswered unknown => simp [unknown] at known
  asked untold _ _ _ does := by
    cases does.acts with
    | remembered known =>
        obtain ⟨deed, member, tells⟩ := (kept.known _).mp known
        exact absurd tells (untold deed member _)
    | @ended code _ _ => exact ⟨.ok code, rfl, rfl, rfl⟩
    | @unanswered fault _ unknown => exact ⟨.error fault, rfl, rfl, unknown⟩
  received does := by
    cases does.acts with
    | received keeps _ => exact keeps
  released := ⟨child.releases, child.release_traced⟩

end Kept

/-- Through any calls on a child and any answers of its system, what it has gone through since its
start governs what it does next, and what is done when it is let go of.
-/
theorem answered_governed (system : ω) {calls : List Call} {child : Child ω}
    (answered : Answered ({ system } : Child ω) calls child)
    : ∃ before,
        before.map Deed.call = calls ∧ Life { system } before child ∧ Governed before child := by
  obtain ⟨before, same, life⟩ := Life.exists_of_answered answered
  exact ⟨before, same, life, ((Kept.start system).life life).governed⟩

/-- A system with prepared answers to writes and to waits, and nothing to read. -/
structure Rehearsed where
  writes : List (Except Fault Unit)
  waits : List (Except Fault (Option Int))

instance : ChildSystem Rehearsed where
  write system _ :=
    match system.writes with
    | [] => (.ok (), system)
    | answer :: writes => (answer, { system with writes })
  closeInput system := system
  collect system _ _ := ([], system)
  wait system :=
    match system.waits with
    | [] => (.ok none, system)
    | answer :: waits => (answer, { system with waits })
  hasEnded system := (.ok false, system)
  kill system := system

/-- A write fails and the next one meets a broken pipe; the first wait fails and the second tells
the code, which is told again. What is sent between the two is lost.
-/
theorem answered_governed_past_broken_pipe
    : let fault : Fault := .system 10
      let limit : Duration := .milliseconds 5
      let system : Rehearsed := {
        writes := [.ok (), .error (.system 5), .error .brokenPipe]
        waits := [.error fault, .ok (some 3)]
      }
      let calls : List Call := [
        .send "first\n" (.ok ()),
        .send "second\n" (.error (.send (.system 5))),
        .send "third\n" (.ok ()),
        .wait (.error (.wait fault)),
        .send "fourth\n" (.ok ()),
        .receive .stdout (some limit) (.failed (.silence limit)),
        .wait (.ok (some 3)),
        .wait (.ok (some 3))
      ]
      ∃ child before,
        Answered ({ system } : Child Rehearsed) calls child
          ∧ before.map Deed.call = calls
          ∧ Life { system } before child
          ∧ Governed before child := by
  intro fault limit system calls
  let child : Child Rehearsed := {
    system := ⟨[], []⟩, inputOpen := false, readerGone := true, exitCode := some (some 3)
  }
  have answered : Answered ({ system } : Child Rehearsed) calls child :=
    .send rfl <|
    .send rfl <|
    .send rfl <|
    .wait rfl <|
    .send rfl <|
    .receive rfl <|
    .wait rfl <|
    .wait rfl <|
    .nil child
  obtain ⟨before, same, life, governed⟩ := answered_governed system answered
  exact ⟨child, before, answered, same, life, governed⟩

end Dialogue
