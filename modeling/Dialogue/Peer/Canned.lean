import Dialogue.Peer.Basic

/-!
A peer with prepared answers: a queue of answers for each stream, and a rule for what comes after
the last of them.
-/

namespace Dialogue

/-- A prepared answer to one read. -/
inductive Prepared
  | chunk (octets : Octets)
  /-- Nothing comes; without a limit of its own the answer names the one of the read. -/
  | silence (limit : Option Duration)
  | fault (fault : Fault)
  | ended
deriving Repr, DecidableEq

/-- What a stream does after its last prepared answer. -/
inductive AfterLast
  /-- It has ended. -/
  | ends
  /-- It is silent until the peer has been waited for, and has then ended. -/
  | endsAfterWait
  /-- It is silent for ever. -/
  | heldOpen
deriving Repr, DecidableEq

/-- A peer with prepared answers. -/
structure Canned where
  stdout : List Prepared := []
  stderr : List Prepared := []
  afterLast : AfterLast := .ends
  exitCode : Option Int := none
  waitFault : Option Fault := none
  /-- Sending fails with the fault when exactly so many texts have been sent. -/
  sendFault : Option (Nat × Fault) := none
  /-- How many texts have been sent. -/
  sent : Nat := 0
  /-- Whether the peer has been waited for. -/
  waited : Bool := false
deriving Repr

namespace Canned

/-- The answers still prepared for a stream. -/
def queue (peer : Canned) : Stream → List Prepared
  | .stdout => peer.stdout
  | .stderr => peer.stderr

/-- A peer with other answers prepared for a stream. -/
def setQueue (peer : Canned) (stream : Stream) (answers : List Prepared) : Canned :=
  match stream with
  | .stdout => { peer with stdout := answers }
  | .stderr => { peer with stderr := answers }

/-- The limit that a silent answer names if it has none of its own and the read has none. -/
def defaultLimit : Duration := .milliseconds 1000

/-- A prepared answer, given to a read with a limit. -/
def answer (stream : Stream) (limit : Option Duration) : Prepared → Reception
  | .chunk octets => .chunk octets
  | .silence own => .failed (.silence (own.getD (limit.getD defaultLimit)))
  | .fault fault => .failed (.receive stream fault)
  | .ended => .ended

/-- The answer after the last prepared one. -/
def lastAnswer (peer : Canned) (limit : Option Duration) : Reception :=
  let silent := .failed (.silence (limit.getD defaultLimit))
  match peer.afterLast with
  | .ends => .ended
  | .endsAfterWait => if peer.waited then .ended else silent
  | .heldOpen => silent

/-- Answers a read. -/
def receive (peer : Canned) (stream : Stream) (limit : Option Duration) : Reception × Canned :=
  match peer.queue stream with
  | [] => (peer.lastAnswer limit, peer)
  | prepared :: rest => (answer stream limit prepared, peer.setQueue stream rest)

/-- Takes a text. -/
def send (peer : Canned) (_text : String) : Except PeerError Unit × Canned :=
  match peer.sendFault with
  | some (at', fault) =>
    if peer.sent = at' then (.error (.send fault), peer)
    else (.ok (), { peer with sent := peer.sent + 1 })
  | none => (.ok (), { peer with sent := peer.sent + 1 })

/-- Answers a wait. -/
def wait (peer : Canned) : Except PeerError (Option Int) × Canned :=
  let answer :=
    match peer.waitFault with
    | some fault => .error (.wait fault)
    | none => .ok peer.exitCode
  (answer, { peer with waited := true })

/-- After the last prepared answer no chunk comes any more. -/
theorem lastAnswer_ne_chunk (peer : Canned) (limit : Option Duration) (octets : Octets)
    : peer.lastAnswer limit ≠ .chunk octets := by
  unfold lastAnswer
  cases peer.afterLast <;> cases peer.waited <;> simp

/-- Every prepared answer is given once. -/
theorem length_receive {peer next : Canned} {stream : Stream} {limit : Option Duration}
    {octets : Octets} (h : peer.receive stream limit = (.chunk octets, next))
    : next.stdout.length + next.stderr.length < peer.stdout.length + peer.stderr.length := by
  unfold receive at h
  cases stream <;> simp only [queue, setQueue] at h <;> split at h
  · exact absurd (Prod.mk.inj h).1 (lastAnswer_ne_chunk peer limit octets)
  · next hq => simp [← (Prod.mk.inj h).2, hq]
  · exact absurd (Prod.mk.inj h).1 (lastAnswer_ne_chunk peer limit octets)
  · next hq => simp [← (Prod.mk.inj h).2, hq]

instance : Peer Canned where
  send := send
  receive := receive
  wait := wait
  supply peer := peer.stdout.length + peer.stderr.length
  supply_lt := length_receive

end Canned

end Dialogue
