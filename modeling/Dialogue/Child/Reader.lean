import Dialogue.Peer.Basic

/-!
The reading of one output stream of a child. A worker reads from the source and puts each chunk
into a queue; the one who asks for chunks takes them from the queue, in order, and meets the end of
the stream or a fault of the source only behind everything that was read before it.
-/

namespace Dialogue

/-- The answer of a source to one read of the worker. -/
inductive SourceAnswer
  /-- Octets were read; a read of none is the end of the source. -/
  | octets (octets : Octets)
  /-- The read was interrupted and is to be made again. -/
  | interrupted
  /-- The read failed. -/
  | failed (fault : Fault)
deriving Repr, DecidableEq

/-- A worker with its queue, and whether the asking side has met the end. -/
structure Reader where
  /-- What has been read and not yet been asked for. -/
  queue : List (Except Fault Octets) := []
  /-- The worker still reads. -/
  working : Bool := true
  /-- The asking side has met the end or a fault. -/
  closed : Bool := false

namespace Reader

/-- How many octets the worker reads at most at once. -/
def readSize : Nat := 8192

/-- The worker takes the answer of its source. It stops at the end and at a fault. -/
def work (reader : Reader) : SourceAnswer → Reader
  | .interrupted => reader
  | .octets [] => { reader with working := false }
  | .octets octets =>
    if reader.working then { reader with queue := reader.queue ++ [.ok octets] } else reader
  | .failed fault =>
    if reader.working then
      { reader with queue := reader.queue ++ [.error fault], working := false }
    else reader

/-- What there is for one who asks, if there is anything yet: a chunk, the end, or a fault. -/
def take? (stream : Stream) (reader : Reader) : Option (Reception × Reader) :=
  if reader.closed then some (.ended, reader)
  else
    match reader.queue with
    | .ok octets :: rest => some (.chunk octets, { reader with queue := rest })
    | .error fault :: rest =>
      some (.failed (.receive stream fault), { reader with queue := rest, closed := true })
    | [] => if reader.working then none else some (.ended, { reader with closed := true })

/-- The answer to one who has waited as long as the limit allows: what there is, or silence. -/
def answer (stream : Stream) (limit : Duration) (reader : Reader) : Reception × Reader :=
  (reader.take? stream).getD (.failed (.silence limit), reader)

/-- Cuts octets into pieces as the worker reads them. The first argument bounds their number. -/
def cut : Nat → Octets → List Octets
  | 0, _ => []
  | _ + 1, [] => []
  | count + 1, octets => octets.take readSize :: cut count (octets.drop readSize)

/-- The worker takes all of one write. -/
def workAll (reader : Reader) (octets : Octets) : Reader :=
  (cut octets.length octets).foldl (fun reader piece => reader.work (.octets piece)) reader

end Reader

end Dialogue
