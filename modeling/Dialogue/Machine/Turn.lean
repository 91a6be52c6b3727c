import Dialogue.Machine.Loading
import Dialogue.Machine.World

/-!
Turns. The processes of a machine take turns, and in each turn one request is answered. A process
whose request cannot be answered yet is passed over.
-/

namespace Dialogue.Machine.World

/-- The number of the signal for a write that nobody reads. -/
def pipeSignal : Nat := 13

/-- Answers the request at the head of a process's program. There is no answer while the process
has to wait. The process given is the one of that number in the machine. -/
def serve (catalogue : Catalogue) (w : World) (p : Process) : Program → Option World
  | .exit code => some (w.mapProcess p.id (·.finish (.exited (code % 256))))
  | .pass next => some (w.mapProcess p.id (·.goOn (next ())))
  | .await descriptor next =>
    if p.noticed != [] then some (w.mapProcess p.id (·.goOn (next true)))
    else (w.readFrom (p.endpoint? descriptor) 1).map fun _ =>
      w.mapProcess p.id (·.goOn (next false))
  | .read descriptor count next =>
    (w.readFrom (p.endpoint? descriptor) count).map fun (answer, w) =>
      w.mapProcess p.id (·.goOn (next answer))
  | .write descriptor octets next =>
    match w.writeTo (p.endpoint? descriptor) octets with
    | .waits => none
    | .taken w => some (w.mapProcess p.id (·.goOn (next (.ok ()))))
    | .failed fault => some (w.mapProcess p.id (·.goOn (next (.error fault))))
    | .readerGone =>
      some (w.mapProcess p.id fun p =>
        -- A process that ignores the signal, or takes note of it, learns of it from the write.
        match p.response pipeSignal with
        | .ends => p.finish (.killed pipeSignal)
        | .ignores => p.goOn (next (.error .brokenPipe))
        | .notes => (p.receive pipeSignal).goOn (next (.error .brokenPipe)))
  | .openFile path mode next =>
    match w.openFile p path mode with
    | .error fault => some (w.mapProcess p.id (·.goOn (next (.error fault))))
    | .ok (e, w) =>
      let descriptor := p.freeFrom 0
      some (w.mapProcess p.id fun p => (p.withEndpoint descriptor e).goOn (next (.ok descriptor)))
  | .replace path content next =>
    match w.replaceFile p path content with
    | .error fault => some (w.mapProcess p.id (·.goOn (next (.error fault))))
    | .ok w => some (w.mapProcess p.id (·.goOn (next (.ok ()))))
  | .duplicate source target next =>
    match p.endpoint? source with
    | none => some (w.mapProcess p.id (·.goOn (next (.error badDescriptor))))
    | some e => some (w.mapProcess p.id fun p => (p.withEndpoint target e).goOn (next (.ok ())))
  | .save descriptor next =>
    match p.endpoint? descriptor with
    | none => some (w.mapProcess p.id (·.goOn (next none)))
    | some e =>
      let free := p.freeFrom 10
      some (w.mapProcess p.id fun p => (p.withEndpoint free e).goOn (next (some free)))
  | .close descriptor next =>
    some (w.mapProcess p.id fun p => (p.without descriptor).goOn (next ()))
  | .goBack descriptor count next =>
    let w :=
      match p.endpoint? descriptor with
      | some (.opened number) =>
        match w.openings.lookup number with
        | some opening => w.setOpening number { opening with offset := opening.offset - count }
        | none => w
      | _ => w
    some (w.mapProcess p.id (·.goOn (next ())))
  | .pipe next =>
    let (pipe, w) := w.newPipe
    let read := p.freeFrom 0
    let p' := p.withEndpoint read (.reading pipe)
    let write := p'.freeFrom 0
    some (w.mapProcess p.id fun _ =>
      (p'.withEndpoint write (.writing pipe)).goOn (next (read, write)))
  | .fork child next =>
    let id := w.nextId
    let w := w.mapProcess p.id (·.goOn (next id))
    let child : Process := { p with id, parent := p.id, condition := .running child, noticed := [] }
    some { w with nextId := id + 1, processes := w.processes ++ [child] }
  | .execute path arguments vars failed =>
    match load catalogue (w.fromProcess p) vars interpreterDepth path arguments with
    | .error fault => some (w.mapProcess p.id (·.goOn (failed fault)))
    | .ok program => some (w.mapProcess p.id (·.become program (w.clock + startTime)))
  | .wait child interruptible next =>
    let answer (awaited : Awaited) (w : World) : Option World :=
      some (w.mapProcess p.id (·.goOn (next awaited)))
    match w.process? child with
    | none => answer .absent w
    | some c =>
      match c.condition with
      | .ended how =>
        -- A process that has been waited for is gone.
        answer (.ended how) { w with processes := w.processes.filter (·.id != child) }
      | .running _ =>
        match interruptible, p.noticed with
        | true, signal :: _ => answer (.interrupted signal) w
        | _, _ => none
  | .isRunning child next =>
    let running := (w.process? child).any (·.isRunning)
    some (w.mapProcess p.id (·.goOn (next running)))
  | .kill id number next =>
    match w.signal id number with
    | .error fault => some (w.mapProcess p.id (·.goOn (next (.error fault))))
    | .ok w =>
      some (w.mapProcess p.id fun p => if p.isRunning then p.goOn (next (.ok ())) else p)
  | .respond signal response next =>
    some (w.mapProcess p.id fun p =>
      { p with responses := (signal, response) :: p.responses.filter (·.1 != signal) }.goOn
        (next ()))
  | .ignored next =>
    let ignored := (p.responses.filter (·.2 == .ignores)).map Prod.fst
    some (w.mapProcess p.id (·.goOn (next ignored)))
  | .signals next =>
    some (w.mapProcess p.id fun p => { p with noticed := [] }.goOn (next p.noticed.reverse))
  | .sleep nanoseconds next =>
    some (w.mapProcess p.id fun p =>
      { p with ready := w.clock + nanoseconds, condition := .running (next ()) })
  | .changeDirectory path next =>
    match (w.fromProcess p).enter path with
    | .error fault => some (w.mapProcess p.id (·.goOn (next (.error fault))))
    | .ok tree =>
      some (w.mapProcess p.id fun p => { p with directory := tree.current }.goOn (next (.ok ())))
  | .currentDirectory next =>
    some (w.mapProcess p.id (·.goOn (next (FileTree.absolute p.directory))))
  | .identity next => some (w.mapProcess p.id (·.goOn (next (p.id, p.parent))))
  | .mask new next =>
    some (w.mapProcess p.id fun p => { p with mask := new.getD p.mask }.goOn (next p.mask))
  | .inspect path last next =>
    some (w.mapProcess p.id (·.goOn (next (w.inspect p path last))))
  | .describe descriptor next =>
    some (w.mapProcess p.id (·.goOn (next (w.describe p descriptor))))
  | .list path next =>
    some (w.mapProcess p.id (·.goOn (next (names (w.fromProcess p) path))))

/-- Lets one process take its turn, if it can. It then goes to the end of the line. -/
def turn (catalogue : Catalogue) (w : World) (p : Process) : Option World :=
  match p.condition with
  | .ended _ => none
  | .running program =>
    if p.stopped || w.clock < p.ready then none
    else
      -- Whoever had its turn is the last to have the next one.
      let others := w.processes.filter (·.id != p.id)
      (serve catalogue { w with processes := others ++ [p] } p program).map fun w =>
        { w with clock := w.clock + requestTime }

/-- Lets the first process that can take its turn. -/
def step (catalogue : Catalogue) (w : World) : Option World :=
  w.processes.findSome? (w.turn catalogue)

/-- The next time at which a process that does nothing yet will do something. -/
def nextReady (w : World) : Option Nat :=
  (w.processes.filterMap fun p =>
    if p.isRunning && !p.stopped && w.clock < p.ready then some p.ready else none).min?

/-- Runs the machine until something is so or the time is over. At the end it says which of the
two came first; a machine on which nothing more can happen waits for its time to be over. The
first argument bounds the turns taken. -/
def runUntil (catalogue : Catalogue) (so : World → Bool) (deadline : Option Nat) :
    Nat → World → Bool × World
  | 0, w => (so w, w)
  | turns + 1, w =>
    if so w then (true, w)
    else if deadline.any (· < w.clock) then (false, w)
    else
      match w.step catalogue with
      | some w => runUntil catalogue so deadline turns w
      | none =>
        match w.nextReady, deadline with
        | some time, some last =>
          -- Everybody sleeps beyond the deadline.
          if last < time then (false, { w with clock := last })
          else runUntil catalogue so deadline turns { w with clock := time }
        | some time, none => runUntil catalogue so deadline turns { w with clock := time }
        | none, some last => (false, { w with clock := last })
        | none, none => (false, w)

end Dialogue.Machine.World
