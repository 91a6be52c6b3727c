import Dialogue.Peer.Recorded

/-!
Runs of calls on a peer. A run starts in one state of the peer, gets the answers that the peer gives
there, and ends in another. Recording a run adds its calls to the record and nothing else, so what
a record holds is exactly the run that was made.
-/

namespace Dialogue

variable {σ : Type} [Peer σ]

/-- A peer gives these calls their answers one after the other, from the first state to the last. -/
inductive Answered : σ → List Call → σ → Prop
  | nil (peer : σ) : Answered peer [] peer
  | send {peer next last : σ} {text : String} {answer : Except PeerError Unit}
    {calls : List Call} (made : Peer.send peer text = (answer, next))
    (rest : Answered next calls last)
    : Answered peer (.send text answer :: calls) last
  | receive {peer next last : σ} {stream : Stream} {limit : Option Duration}
    {answer : Reception} {calls : List Call}
    (made : Peer.receive peer stream limit = (answer, next)) (rest : Answered next calls last)
    : Answered peer (.receive stream limit answer :: calls) last
  | wait {peer next last : σ} {answer : Except PeerError (Option Int)} {calls : List Call}
    (made : Peer.wait peer = (answer, next)) (rest : Answered next calls last)
    : Answered peer (.wait answer :: calls) last

namespace Answered

/-- A run without calls leaves the peer where it was. -/
theorem eq_of_nil {peer last : σ} (answered : Answered peer [] last)
    : last = peer := by
  cases answered
  rfl

/-- A run ends in one state only: each call leaves the peer where its answer did. -/
theorem last_eq {peer last other : σ} {calls : List Call} (first : Answered peer calls last)
    (second : Answered peer calls other)
    : last = other := by
  induction first with
  | nil => exact second.eq_of_nil.symm
  | send made _ ih =>
      cases second with
      | send again rest =>
          cases made.symm.trans again
          exact ih rest
  | receive made _ ih =>
      cases second with
      | receive again rest =>
          cases made.symm.trans again
          exact ih rest
  | wait made _ ih =>
      cases second with
      | wait again rest =>
          cases made.symm.trans again
          exact ih rest

/-- Two runs, the second of which starts where the first ends, are one run. -/
theorem append {peer middle last : σ} {calls more : List Call}
    (first : Answered peer calls middle) (second : Answered middle more last)
    : Answered peer (calls ++ more) last := by
  induction first with
  | nil => exact second
  | send made _ ih => exact .send made (ih second)
  | receive made _ ih => exact .receive made (ih second)
  | wait made _ ih => exact .wait made (ih second)

/-- A run can be parted between any two calls, by induction on the calls of the first part. -/
theorem split {peer last : σ} {calls more : List Call}
    (answered : Answered peer (calls ++ more) last)
    : ∃ middle, Answered peer calls middle ∧ Answered middle more last := by
  induction calls generalizing peer with
  | nil => exact ⟨peer, .nil peer, answered⟩
  | cons call calls ih =>
      cases answered with
      | send made rest =>
          obtain ⟨middle, first, second⟩ := ih rest
          exact ⟨middle, .send made first, second⟩
      | receive made rest =>
          obtain ⟨middle, first, second⟩ := ih rest
          exact ⟨middle, .receive made first, second⟩
      | wait made rest =>
          obtain ⟨middle, first, second⟩ := ih rest
          exact ⟨middle, .wait made first, second⟩

/-- Recording a run puts its calls into the record, the latest first. -/
theorem recorded {peer last : σ} {calls : List Call} (answered : Answered peer calls last)
    (latest : List Call)
    : Answered (⟨peer, latest⟩ : Recorded σ) calls ⟨last, calls.reverse ++ latest⟩ := by
  induction answered generalizing latest with
  | nil peer => exact .nil _
  | @send peer next last text answer calls made rest ih =>
      have step : Peer.send (⟨peer, latest⟩ : Recorded σ) text
          = (answer, ⟨next, .send text answer :: latest⟩) := by
        simp only [Peer.send, made]
      simpa using Answered.send step (ih (.send text answer :: latest))
  | @receive peer next last stream limit answer calls made rest ih =>
      have step : Peer.receive (⟨peer, latest⟩ : Recorded σ) stream limit
          = (answer, ⟨next, .receive stream limit answer :: latest⟩) := by
        simp only [Peer.receive, made]
      simpa using Answered.receive step (ih (.receive stream limit answer :: latest))
  | @wait peer next last answer calls made rest ih =>
      have step : Peer.wait (⟨peer, latest⟩ : Recorded σ)
          = (answer, ⟨next, .wait answer :: latest⟩) := by
        simp only [Peer.wait, made]
      simpa using Answered.wait step (ih (.wait answer :: latest))

end Answered

end Dialogue
