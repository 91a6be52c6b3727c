import Dialogue.Duration
import Dialogue.Fault
import Dialogue.Scenario.Basic
import Dialogue.Text.Octets

/-!
The other side of a dialogue. A peer takes input, answers chunk by chunk on two streams, and can be
waited for. Its supply of chunks is finite: every chunk it gives lowers the supply that is left.
-/

namespace Dialogue

/-- What can go wrong with a peer. -/
inductive PeerError
  /-- The program could not be started. -/
  | start (program : String) (fault : Fault)
  /-- Input could not be sent. -/
  | send (fault : Fault)
  /-- A stream could not be read. -/
  | receive (stream : Stream) (fault : Fault)
  /-- The end of the program could not be waited for. -/
  | wait (fault : Fault)
  /-- Nothing came within the limit. -/
  | silence (limit : Duration)
deriving Repr, DecidableEq

/-- The text of what went wrong. -/
def PeerError.message : PeerError → String
  | .start program fault => s!"failed to start '{program}': {fault.message}"
  | .send fault => s!"failed to write to stdin: {fault.message}"
  | .receive stream fault => s!"failed to read {stream.name}: {fault.message}"
  | .wait fault => s!"failed to wait for process: {fault.message}"
  | .silence limit => s!"no output after {limit.text}"

/-- The answer to one read. -/
inductive Reception
  /-- Octets came; there may be none in a chunk. -/
  | chunk (octets : Octets)
  /-- The stream has ended. -/
  | ended
  /-- The read failed. -/
  | failed (error : PeerError)
deriving Repr, DecidableEq

/-- The other side of a dialogue, in a state `σ`. -/
class Peer (σ : Type) where
  /-- Sends a text, without waiting for an answer. -/
  send : σ → String → Except PeerError Unit × σ
  /-- Waits for the next chunk on a stream, at most for the limit if there is one. -/
  receive : σ → Stream → Option Duration → Reception × σ
  /-- Ends the input and waits for the end of the program; there is no exit code after a signal. -/
  wait : σ → Except PeerError (Option Int) × σ
  /-- A bound on the chunks that are still to come. -/
  supply : σ → Nat
  /-- Every chunk lowers the supply. -/
  supply_lt {peer next : σ} {stream : Stream} {limit : Option Duration} {octets : Octets} :
    receive peer stream limit = (.chunk octets, next) → supply next < supply peer

end Dialogue
