import Dialogue.Proofs.Play.Adequacy

/-!
Plays with no bound on what comes. A play that is over has read finitely many chunks, so it is also
the play with the same other side cut off after so many of them, and what holds of plays with peers
of a finite supply holds of it.
-/

namespace Dialogue

/-- The other side of a dialogue with no bound on the chunks that it gives. -/
structure Conduct (σ : Type) where
  send : σ → String → Except PeerError Unit × σ
  receive : σ → Stream → Option Duration → Reception × σ
  wait : σ → Except PeerError (Option Int) × σ

variable {σ : Type} {conduct : Conduct σ}

/-- These calls get their answers one after the other, from the first state to the last. -/
inductive Conduct.Answers (conduct : Conduct σ) : σ → List Call → σ → Prop
  | nil (state : σ) : conduct.Answers state [] state
  | send {state next last : σ} {text : String} {answer : Except PeerError Unit}
    {calls : List Call} (made : conduct.send state text = (answer, next))
    (rest : conduct.Answers next calls last)
    : conduct.Answers state (.send text answer :: calls) last
  | receive {state next last : σ} {stream : Stream} {limit : Option Duration}
    {answer : Reception} {calls : List Call}
    (made : conduct.receive state stream limit = (answer, next))
    (rest : conduct.Answers next calls last)
    : conduct.Answers state (.receive stream limit answer :: calls) last
  | wait {state next last : σ} {answer : Except PeerError (Option Int)} {calls : List Call}
    (made : conduct.wait state = (answer, next)) (rest : conduct.Answers next calls last)
    : conduct.Answers state (.wait answer :: calls) last

/-- Another side that is cut off after a number of chunks. -/
structure Rationed (conduct : Conduct σ) where
  state : σ
  ration : Nat

/-- Answers a read with what is left of the ration; a chunk beyond it is the end of the stream. -/
def Rationed.receive (peer : Rationed conduct) (stream : Stream) (limit : Option Duration)
    : Reception × Rationed conduct :=
  match conduct.receive peer.state stream limit, peer.ration with
  | (.chunk _, next), 0 => (.ended, ⟨next, 0⟩)
  | (.chunk octets, next), ration + 1 => (.chunk octets, ⟨next, ration⟩)
  | (.ended, next), ration => (.ended, ⟨next, ration⟩)
  | (.failed error, next), ration => (.failed error, ⟨next, ration⟩)

/-- A chunk uses up a part of the ration. -/
theorem Rationed.ration_receive {peer next : Rationed conduct} {stream : Stream}
    {limit : Option Duration} {octets : Octets}
    (came : peer.receive stream limit = (.chunk octets, next))
    : next.ration < peer.ration := by
  obtain ⟨state, ration⟩ := peer
  rcases made : conduct.receive state stream limit with ⟨answer, after⟩
  cases answer <;> cases ration <;> simp only [receive, made] at came <;> cases came
  exact Nat.lt_succ_self _

instance : Peer (Rationed conduct) where
  send peer text :=
    let (answer, next) := conduct.send peer.state text
    (answer, { peer with state := next })
  receive := Rationed.receive
  wait peer :=
    let (answer, next) := conduct.wait peer.state
    (answer, { peer with state := next })
  supply := Rationed.ration
  supply_lt := Rationed.ration_receive

/-- Whether a call brought a chunk. -/
def Call.broughtChunk : Call → Bool
  | .receive _ _ (.chunk _) => true
  | _ => false

/-- With a ration of all the chunks that calls brought, they get the same answers. Witness:
induction on the calls; whatever is put on top of the ration is left at their end.
-/
theorem Conduct.Answers.rationed {state last : σ} {calls : List Call}
    (answers : conduct.Answers state calls last) (spare : Nat)
    : Answered (⟨state, calls.countP Call.broughtChunk + spare⟩ : Rationed conduct) calls
        ⟨last, spare⟩ := by
  induction answers with
  | nil state =>
      rw [List.countP_nil, Nat.zero_add]
      exact .nil _
  | @send state next last text answer calls made _ ih =>
      refine .send ?_ ih
      simp only [Peer.send, made]
      rfl
  | @receive state next last stream limit answer calls made _ ih =>
      refine .receive ?_ ih
      cases answer with
      | chunk octets =>
          rw [List.countP_cons_of_pos rfl, Nat.add_right_comm]
          simp only [Peer.receive, Rationed.receive, made]
      | ended => simp [Peer.receive, Rationed.receive, made, Call.broughtChunk]
      | failed error => simp [Peer.receive, Rationed.receive, made, Call.broughtChunk]
  | @wait state next last answer calls made _ ih =>
      refine .wait ?_ ih
      simp only [Peer.wait, made]
      rfl

/-- A play by the rules with another side that gives whatever it will is the play with that side
rationed to the chunks that came.
-/
theorem Played.rationed {limit : Option Duration} {steps : List Step} {session final : Session}
    {calls : List Call} {verdict : Verdict} {state last : σ}
    (played : Played limit steps session calls final verdict)
    (answers : conduct.Answers state calls last)
    : playSteps limit steps
          ⟨session, (⟨state, calls.countP Call.broughtChunk⟩ : Rationed conduct)⟩
        = (verdict, ⟨final, ⟨last, 0⟩⟩) :=
  played.determines (answers.rationed 0)

end Dialogue
