import Dialogue.Child.Basic
import Dialogue.Proofs.Play.Answered

/-!
The calls that a child makes on its system. A traced system answers as it would otherwise and keeps
what was asked of it, so each call on a child can be told together with the calls it led to. What a
call does to a child is said once here; everything that holds of its life follows from that.
-/

namespace Dialogue

-----------------------------------------------------------------------------------------
-- Systems that are traced
-----------------------------------------------------------------------------------------

/-- One call on the system of a child, with its answer. -/
inductive SystemCall
  | write (octets : Octets) (answer : Except Fault Unit)
  | closeInput
  | collect (stream : Stream) (limit : Option Duration)
    (answers : List (Stream × SourceAnswer))
  | wait (answer : Except Fault (Option Int))
  | hasEnded (answer : Except Fault Bool)
  | kill

/-- A system together with the calls made on it so far, the latest first. -/
structure Traced (ω : Type) where
  system : ω
  latest : List SystemCall := []

variable {ω : Type}

/-- The calls made on a system, in order. -/
def Traced.calls (traced : Traced ω) : List SystemCall := traced.latest.reverse

instance [ChildSystem ω] : ChildSystem (Traced ω) where
  write traced octets :=
    let (answer, system) := ChildSystem.write traced.system octets
    (answer, ⟨system, .write octets answer :: traced.latest⟩)
  closeInput traced := ⟨ChildSystem.closeInput traced.system, .closeInput :: traced.latest⟩
  collect traced stream limit :=
    let (answers, system) := ChildSystem.collect traced.system stream limit
    (answers, ⟨system, .collect stream limit answers :: traced.latest⟩)
  wait traced :=
    let (answer, system) := ChildSystem.wait traced.system
    (answer, ⟨system, .wait answer :: traced.latest⟩)
  hasEnded traced :=
    let (answer, system) := ChildSystem.hasEnded traced.system
    (answer, ⟨system, .hasEnded answer :: traced.latest⟩)
  kill traced := ⟨ChildSystem.kill traced.system, .kill :: traced.latest⟩

namespace Child

/-- A child on whose system these calls were traced, in order. -/
def traced (child : Child ω) (effects : List SystemCall) : Child (Traced ω) where
  system := ⟨child.system, effects.reverse⟩
  inputOpen := child.inputOpen
  readerGone := child.readerGone
  stdout := child.stdout
  stderr := child.stderr
  exitCode := child.exitCode
  allowance := child.allowance

/-- The trace of a child tells the calls that were traced. -/
theorem traced_inj {child next : Child ω} {effects others : List SystemCall}
    (same : child.traced effects = next.traced others)
    : effects = others := by
  have systems := congrArg (fun child => child.system.latest.reverse) same
  simpa [traced] using systems

end Child

-----------------------------------------------------------------------------------------
-- What a call does
-----------------------------------------------------------------------------------------

/-- A call on a child, with its answer and the calls on the system that were made for it. -/
structure Deed where
  call : Call
  effects : List SystemCall

namespace Child

variable {child next : Child ω}

/-- A child that is as it was but for its system, its readers and its allowance. -/
structure Keeps (child next : Child ω) : Prop where
  input : next.inputOpen = child.inputOpen
  gone : next.readerGone = child.readerGone
  code : next.exitCode = child.exitCode

/-- The calls on the system that end the input of a child, if it is still open. -/
def closing (child : Child ω) : List SystemCall :=
  if child.inputOpen then [.closeInput] else []

/-- All that a call can do to a child, whatever the system answers. -/
inductive Acts (child : Child ω) : Deed → Child ω → Prop
  | lost {text : String} (gone : child.readerGone = true)
    : Acts child ⟨.send text (.ok ()), []⟩ child
  | refused {text : String} (reads : child.readerGone = false)
    (closed : child.inputOpen = false)
    : Acts child ⟨.send text (.error (.send inputClosed)), []⟩ child
  | taken {text : String} {system : ω} (reads : child.readerGone = false)
    (opened : child.inputOpen = true)
    : Acts child ⟨.send text (.ok ()), [.write (Text.octets text) (.ok ())]⟩
        { child with system }
  | broken {text : String} {fault : Fault} {system : ω} (reads : child.readerGone = false)
    (opened : child.inputOpen = true) (pipe : Fault.Means 32 .brokenPipe fault)
    : Acts child
        ⟨.send text (.ok ()), [.write (Text.octets text) (.error fault), .closeInput]⟩
        { child with system, inputOpen := false, readerGone := true }
  | failed {text : String} {fault : Fault} {system : ω} (reads : child.readerGone = false)
    (opened : child.inputOpen = true) (other : ¬ Fault.Means 32 .brokenPipe fault)
    : Acts child
        ⟨.send text (.error (.send fault)), [.write (Text.octets text) (.error fault)]⟩
        { child with system }
  | received {stream : Stream} {limit : Option Duration} {answer : Reception}
    {effects : List SystemCall} {next : Child ω} (keeps : child.Keeps next)
    (collects : ∀ effect ∈ effects, ∃ answers, effect = .collect stream limit answers)
    : Acts child ⟨.receive stream limit answer, effects⟩ next
  | remembered {code : Option Int} (known : child.exitCode = some code)
    : Acts child ⟨.wait (.ok code), []⟩ child
  | ended {code : Option Int} {system : ω} (unknown : child.exitCode = none)
    : Acts child ⟨.wait (.ok code), child.closing ++ [.wait (.ok code)]⟩
        { child with system, inputOpen := false, exitCode := some code }
  | unanswered {fault : Fault} {system : ω} (unknown : child.exitCode = none)
    : Acts child ⟨.wait (.error (.wait fault)), child.closing ++ [.wait (.error fault)]⟩
        { child with system, inputOpen := false }

-----------------------------------------------------------------------------------------
-- Reading
-----------------------------------------------------------------------------------------

/-- A child to which nothing happens is as it was. -/
theorem Keeps.refl (child : Child ω)
    : child.Keeps child :=
  ⟨rfl, rfl, rfl⟩

/-- What stays as it was in two steps stays as it was. -/
theorem Keeps.trans {middle : Child ω} (first : child.Keeps middle) (second : middle.Keeps next)
    : child.Keeps next :=
  ⟨second.input.trans first.input, second.gone.trans first.gone, second.code.trans first.code⟩

/-- Another reader of a stream changes nothing else. -/
theorem keeps_setReader (child : Child ω) (stream : Stream) (reader : Reader)
    : child.Keeps (child.setReader stream reader) := by
  cases stream <;> exact ⟨rfl, rfl, rfl⟩

/-- Taking in answers changes nothing but the readers, by induction on the answers. -/
theorem keeps_absorbAll (child : Child ω) (answers : List (Stream × SourceAnswer))
    : child.Keeps (answers.foldl absorb child) := by
  induction answers generalizing child with
  | nil => exact .refl child
  | cons answer answers ih =>
      refine Keeps.trans ?_ (ih (child.absorb answer))
      unfold absorb
      split <;> exact keeps_setReader ..

/-- Passing on what there is changes nothing but the readers and the allowance. -/
theorem keeps_of_pass {stream : Stream} {answer : Reception}
    (passed : child.pass stream = some (answer, next))
    : child.Keeps next := by
  unfold pass at passed
  split at passed
  · cases passed
  · split at passed <;> cases passed
    · exact .refl child
    · exact (keeps_setReader ..).trans ⟨rfl, rfl, rfl⟩
  · cases passed
    exact keeps_setReader ..
  · cases passed
    exact keeps_setReader ..

/-- The trace of a child makes no difference to its readers. -/
@[simp]
theorem reader_traced (child : Child ω) (effects : List SystemCall) (stream : Stream)
    : (child.traced effects).reader stream = child.reader stream := by
  cases stream <;> rfl

/-- A reader is set on a traced child as on any other. -/
@[simp]
theorem setReader_traced (child : Child ω) (effects : List SystemCall) (stream : Stream)
    (reader : Reader)
    : (child.traced effects).setReader stream reader
      = (child.setReader stream reader).traced effects := by
  cases stream <;> rfl

/-- A traced child takes in answers as any other, by induction on the answers. -/
theorem absorbAll_traced (child : Child ω) (effects : List SystemCall)
    (answers : List (Stream × SourceAnswer))
    : answers.foldl absorb (child.traced effects)
      = (answers.foldl absorb child).traced effects := by
  induction answers generalizing child with
  | nil => rfl
  | cons answer answers ih =>
      have one : (child.traced effects).absorb answer = (child.absorb answer).traced effects := by
        unfold absorb
        split <;> simp
      rw [List.foldl_cons, List.foldl_cons, one, ih]

/-- A traced child passes on what any other does. -/
theorem pass_traced (child : Child ω) (effects : List SystemCall) (stream : Stream)
    : (child.traced effects).pass stream
      = (child.pass stream).map fun answer => (answer.1, answer.2.traced effects) := by
  unfold pass
  rw [reader_traced]
  have allowance : (child.traced effects).allowance = child.allowance := rfl
  rw [allowance]
  split
  · rfl
  · split <;> simp
    rfl
  · simp
  · simp

variable [ChildSystem ω]

/-- What a child collects are the answers that came meanwhile. -/
theorem collect_eq (child : Child ω) {stream : Stream} {limit : Option Duration}
    {answers : List (Stream × SourceAnswer)} {system : ω}
    (came : ChildSystem.collect child.system stream limit = (answers, system))
    : child.collect stream limit = answers.foldl absorb { child with system } := by
  rw [collect, came]

/-- A child reads by the rules, and a traced one as any other: what is there already is passed on,
and otherwise there is one call on the system.
-/
theorem receive_acts {stream : Stream} {limit : Option Duration} {answer : Reception}
    (received : child.receive stream limit = (answer, next))
    : ∃ effects,
        Acts child ⟨.receive stream limit answer, effects⟩ next
          ∧ (child.traced []).receive stream limit = (answer, next.traced effects) := by
  unfold receive at received ⊢
  rw [pass_traced]
  cases there : child.pass stream with
  | some found =>
      rw [there] at received
      cases received
      refine ⟨[], .received (keeps_of_pass there) (by simp), rfl⟩
  | none =>
      rw [there] at received
      rcases came : ChildSystem.collect child.system stream limit with ⟨answers, system⟩
      have keeps : child.Keeps (child.collect stream limit) := by
        have system : child.Keeps { child with system } := ⟨rfl, rfl, rfl⟩
        rw [child.collect_eq came]
        exact system.trans (keeps_absorbAll _ answers)
      have same
          : (child.traced []).collect stream limit
            = (child.collect stream limit).traced [.collect stream limit answers] := by
        have traced
            : ChildSystem.collect (child.traced []).system stream limit
              = (answers, ⟨system, [.collect stream limit answers]⟩) := by
          simp only [ChildSystem.collect, Child.traced, came]
          rfl
        rw [child.collect_eq came, (child.traced []).collect_eq traced]
        exact absorbAll_traced { child with system } [.collect stream limit answers] answers
      refine ⟨[.collect stream limit answers], .received (keeps.trans ?_) (by simp), ?_⟩
      · dsimp only at received
        cases passed : (child.collect stream limit).pass stream with
        | some found =>
            rw [passed] at received
            cases received
            exact keeps_of_pass passed
        | none =>
            rw [passed] at received
            cases limit <;> cases received <;> exact .refl _
      · dsimp only [Option.map_none]
        rw [same, pass_traced]
        dsimp only at received
        cases passed : (child.collect stream limit).pass stream with
        | some found =>
            rw [passed] at received
            cases received
            rfl
        | none =>
            rw [passed] at received
            cases limit <;> cases received <;> rfl

-----------------------------------------------------------------------------------------
-- Sending and waiting
-----------------------------------------------------------------------------------------

/-- A child that has stopped reading loses what is sent. -/
theorem send_of_gone (child : Child ω) (gone : child.readerGone = true) (text : String)
    : child.send text = (.ok (), child) := by
  rw [send, gone, if_pos rfl]

/-- Nothing is sent to a child whose input is closed. -/
theorem send_of_closed (child : Child ω) (reads : child.readerGone = false)
    (closed : child.inputOpen = false) (text : String)
    : child.send text = (.error (.send inputClosed), child) := by
  simp [send, reads, closed]

/-- What is written to the input is sent. -/
theorem send_of_taken (child : Child ω) {text : String} {system : ω}
    (reads : child.readerGone = false) (opened : child.inputOpen = true)
    (wrote : ChildSystem.write child.system (Text.octets text) = (.ok (), system))
    : child.send text = (.ok (), { child with system }) := by
  simp [send, reads, opened, wrote]

/-- A broken pipe closes the input of a child, and is no error. -/
theorem send_of_broken (child : Child ω) {text : String} {fault : Fault} {system : ω}
    (reads : child.readerGone = false) (opened : child.inputOpen = true)
    (wrote : ChildSystem.write child.system (Text.octets text) = (.error fault, system))
    (pipe : fault.isBrokenPipe = true)
    : child.send text
      = (.ok (), { child with
          system := ChildSystem.closeInput system, inputOpen := false, readerGone := true }) := by
  simp [send, reads, opened, wrote, pipe]

/-- Any other fault of a write is an error, after which the input is still open. -/
theorem send_of_failed (child : Child ω) {text : String} {fault : Fault} {system : ω}
    (reads : child.readerGone = false) (opened : child.inputOpen = true)
    (wrote : ChildSystem.write child.system (Text.octets text) = (.error fault, system))
    (other : fault.isBrokenPipe = false)
    : child.send text = (.error (.send fault), { child with system }) := by
  simp [send, reads, opened, wrote, other]

/-- A child sends by the rules, and a traced one as any other, by cases on what is known of it and
on the answer to the write.
-/
theorem send_acts {text : String} {answer : Except PeerError Unit}
    (sent : child.send text = (answer, next))
    : ∃ effects,
        Acts child ⟨.send text answer, effects⟩ next
          ∧ (child.traced []).send text = (answer, next.traced effects) := by
  cases reads : child.readerGone with
  | true =>
      rw [child.send_of_gone reads] at sent
      cases sent
      exact ⟨[], .lost reads, (child.traced []).send_of_gone reads text⟩
  | false =>
      cases opened : child.inputOpen with
      | false =>
          rw [child.send_of_closed reads opened] at sent
          cases sent
          exact ⟨[], .refused reads opened, (child.traced []).send_of_closed reads opened text⟩
      | true =>
          rcases wrote : ChildSystem.write child.system (Text.octets text) with ⟨came, system⟩
          have traced
              : ChildSystem.write (child.traced []).system (Text.octets text)
                = (came, ⟨system, [.write (Text.octets text) came]⟩) := by
            simp only [ChildSystem.write, Child.traced, wrote]
            rfl
          rcases came with fault | ⟨⟩
          · cases pipe : fault.isBrokenPipe with
            | true =>
                rw [child.send_of_broken reads opened wrote pipe] at sent
                cases sent
                exact ⟨_, .broken reads opened (Fault.isBrokenPipe_iff.mp pipe),
                  (child.traced []).send_of_broken reads opened traced pipe⟩
            | false =>
                rw [child.send_of_failed reads opened wrote pipe] at sent
                cases sent
                have other := mt Fault.isBrokenPipe_iff.mpr (Bool.eq_false_iff.mp pipe)
                exact ⟨_, .failed reads opened other,
                  (child.traced []).send_of_failed reads opened traced pipe⟩
          · rw [child.send_of_taken reads opened wrote] at sent
            cases sent
            exact ⟨_, .taken reads opened, (child.traced []).send_of_taken reads opened traced⟩

/-- The exit code of a child is told again once it is known. -/
theorem wait_of_known (child : Child ω) {code : Option Int} (known : child.exitCode = some code)
    : child.wait = (.ok code, child) := by
  rw [wait, known]

/-- The system of a child whose input was closed, if it was still open. -/
def closedSystem (child : Child ω) : ω :=
  if child.inputOpen then ChildSystem.closeInput child.system else child.system

/-- A child that has ended has a code from then on. -/
theorem wait_of_ended (child : Child ω) {code : Option Int} {system : ω}
    (unknown : child.exitCode = none)
    (came : ChildSystem.wait child.closedSystem = (.ok code, system))
    : child.wait
      = (.ok code, { child with system, inputOpen := false, exitCode := some code }) := by
  rw [closedSystem] at came
  simp only [wait, unknown, came]

/-- A wait that failed leaves the code unknown. -/
theorem wait_of_unanswered (child : Child ω) {fault : Fault} {system : ω}
    (unknown : child.exitCode = none)
    (came : ChildSystem.wait child.closedSystem = (.error fault, system))
    : child.wait = (.error (.wait fault), { child with system, inputOpen := false }) := by
  rw [closedSystem] at came
  simp only [wait, unknown, came]

/-- A child is waited for by the rules, and a traced one as any other, by cases on whether its code
is known and on the answer of the system.
-/
theorem wait_acts {answer : Except PeerError (Option Int)}
    (waited : child.wait = (answer, next))
    : ∃ effects,
        Acts child ⟨.wait answer, effects⟩ next
          ∧ (child.traced []).wait = (answer, next.traced effects) := by
  cases known : child.exitCode with
  | some code =>
      rw [child.wait_of_known known] at waited
      cases waited
      exact ⟨[], .remembered known, (child.traced []).wait_of_known known⟩
  | none =>
      rcases came : ChildSystem.wait child.closedSystem with ⟨ended, system⟩
      have closed
          : (child.traced []).closedSystem = ⟨child.closedSystem, child.closing.reverse⟩ := by
        cases opened : child.inputOpen with
        | false =>
            simp only [closedSystem, closing, traced, opened]
            rfl
        | true =>
            simp only [closedSystem, closing, traced, opened]
            rfl
      have traced
          : ChildSystem.wait (child.traced []).closedSystem
            = (ended, ⟨system, (child.closing ++ [SystemCall.wait ended]).reverse⟩) := by
        rw [closed]
        simp only [ChildSystem.wait, came, List.reverse_append]
        rfl
      cases ended with
      | ok code =>
          rw [child.wait_of_ended known came] at waited
          cases waited
          exact ⟨_, .ended known, (child.traced []).wait_of_ended known traced⟩
      | error fault =>
          rw [child.wait_of_unanswered known came] at waited
          cases waited
          exact ⟨_, .unanswered known, (child.traced []).wait_of_unanswered known traced⟩

/-- A traced child is let go of as any other. -/
theorem release_traced (child : Child ω)
    : (child.traced []).release.system = child.release := by
  unfold release
  cases known : child.exitCode with
  | some code => simp [traced, known]
  | none =>
      rcases came : ChildSystem.hasEnded child.system with ⟨ended, system⟩
      simp only [traced, known, ChildSystem.hasEnded, came]
      rcases ended with fault | ⟨_ | _⟩ <;> rfl

-----------------------------------------------------------------------------------------
-- Calls and their effects
-----------------------------------------------------------------------------------------

/-- A call on a child gets its answer, and the calls on the system made for it are these. -/
structure Does (child : Child ω) (deed : Deed) (next : Child ω) : Prop where
  answered : Answered child [deed.call] next
  traced : Answered (child.traced []) [deed.call] (next.traced deed.effects)

/-- Every call that is answered is answered by the rules, and so it is with a traced system, by
cases on the call.
-/
theorem exists_acts {call : Call} (answered : Answered child [call] next)
    : ∃ effects, Acts child ⟨call, effects⟩ next ∧ Does child ⟨call, effects⟩ next := by
  have whole := answered
  cases answered with
  | send made rest =>
      cases rest.eq_of_nil
      obtain ⟨effects, acts, traced⟩ := send_acts made
      exact ⟨effects, acts, whole, .send traced (.nil _)⟩
  | receive made rest =>
      cases rest.eq_of_nil
      obtain ⟨effects, acts, traced⟩ := receive_acts made
      exact ⟨effects, acts, whole, .receive traced (.nil _)⟩
  | wait made rest =>
      cases rest.eq_of_nil
      obtain ⟨effects, acts, traced⟩ := wait_acts made
      exact ⟨effects, acts, whole, .wait traced (.nil _)⟩

/-- What a call does, it does by the rules. -/
theorem Does.acts {deed : Deed} (does : Does child deed next)
    : Acts child deed next := by
  obtain ⟨effects, acts, other⟩ := exists_acts does.answered
  have same : effects = deed.effects := traced_inj (other.traced.last_eq does.traced)
  rw [same] at acts
  exact acts

end Child

end Dialogue
