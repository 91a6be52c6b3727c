import Dialogue.Peer.Basic

/-!
A peer whose calls are recorded. The record holds every call with its answer, in order; what was
sent, what was read and how often the peer was waited for are views of it.
-/

namespace Dialogue

/-- One call on a peer with its answer. -/
inductive Call
  | send (text : String) (answer : Except PeerError Unit)
  | receive (stream : Stream) (limit : Option Duration) (answer : Reception)
  | wait (answer : Except PeerError (Option Int))

/-- A peer together with the calls made on it so far, the latest first. -/
structure Recorded (σ : Type) where
  peer : σ
  latest : List Call := []

namespace Recorded

variable {σ : Type}

/-- The calls in the order in which they were made. -/
def calls (recorded : Recorded σ) : List Call := recorded.latest.reverse

instance [Peer σ] : Peer (Recorded σ) where
  send recorded text :=
    let (answer, peer) := Peer.send recorded.peer text
    (answer, ⟨peer, .send text answer :: recorded.latest⟩)
  receive recorded stream limit :=
    let (answer, peer) := Peer.receive recorded.peer stream limit
    (answer, ⟨peer, .receive stream limit answer :: recorded.latest⟩)
  wait recorded :=
    let (answer, peer) := Peer.wait recorded.peer
    (answer, ⟨peer, .wait answer :: recorded.latest⟩)
  supply recorded := Peer.supply recorded.peer
  supply_lt := by
    intro recorded next stream limit octets h
    obtain ⟨hanswer, rfl⟩ := Prod.mk.inj h
    exact Peer.supply_lt (Prod.ext hanswer rfl)

end Recorded

namespace Call

/-- The text that a call sent, if it was taken. -/
def sent? : Call → Option String
  | .send text (.ok _) => some text
  | _ => none

/-- The stream and the limit of a read. -/
def read? : Call → Option (Stream × Option Duration)
  | .receive stream limit _ => some (stream, limit)
  | _ => none

/-- Whether a call waits for the end of the program. -/
def isWait : Call → Bool
  | .wait _ => true
  | _ => false

end Call

end Dialogue
