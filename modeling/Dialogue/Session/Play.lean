import Dialogue.Difference.Hunk
import Dialogue.Peer.Basic
import Dialogue.Session.Basic
import Dialogue.Session.Verdict

/-!
Playing a scenario. Steps are taken in order: input is sent first, then the answer is awaited. An
expected text is judged as soon as the pending octets begin with it or can no longer become it;
what has come beyond it waits for the next step. The first step that fails ends the play. After a
last step that closes, the peer is waited for and what it still has to say is gathered.
-/

namespace Dialogue

/-- A session together with the peer it is held with. -/
structure Exchange (σ : Type) where
  session : Session
  peer : σ

/-- A step that is over: the exchange it left, and the verdict if it ended the play. -/
structure Turn (σ : Type) where
  exchange : Exchange σ
  verdict : Option Verdict

namespace Exchange

variable {σ : Type}

/-- An exchange with the session changed. -/
def mapSession (f : Session → Session) (x : Exchange σ) : Exchange σ :=
  { x with session := f x.session }

/-- The step is over and the play goes on. -/
def goOn (x : Exchange σ) : Turn σ := ⟨x, none⟩

/-- The step is over and so is the play. -/
def stop (x : Exchange σ) (verdict : Verdict) : Turn σ := ⟨x, some verdict⟩

/-- Ends the play because what is pending is not what was expected. All of it is taken, and the
difference is logged. -/
def stopMismatch (x : Exchange σ) (step : Nat) (stream : Stream) (expected : String) : Turn σ :=
  let (octets, session) := x.session.take stream
  let actual := Text.shown octets
  let difference := String.ofList (Difference.unified expected.toList actual.toList)
  let session := session.note s!"[{stream.name} mismatch at step {step}]"
  stop { x with session := session.note difference } (.mismatch step stream expected actual)

/-- Ends the play because an expected text did not come within a limit. -/
def stopTimeout (x : Exchange σ) (step : Nat) (stream : Stream) (expected : String)
    (limit : Duration) : Turn σ :=
  stop (x.mapSession (·.note s!"[timeout after {limit.text} on {stream.name}]"))
    (.timeout step stream expected (Text.shown (x.session.pending stream)))

variable [Peer σ]

/-- Waits until an expected text can be judged. Chunks are read only while the pending octets are
the beginning of the text and not yet all of it. -/
def awaitText (limit : Option Duration) (step : Nat) (stream : Stream) (expected : String)
    (x : Exchange σ) : Turn σ :=
  let wanted := Text.octets expected
  let pending := x.session.pending stream
  if wanted.isPrefixOf pending then
    let (taken, session) := x.session.consume stream wanted.length
    goOn { x with session := session.noteTaken stream taken }
  -- What is wrong already stays wrong, whatever comes.
  else if !pending.isPrefixOf wanted then x.stopMismatch step stream expected
  else
    match _h : Peer.receive x.peer stream limit with
    | (.chunk octets, peer) =>
      awaitText limit step stream expected ⟨x.session.append stream octets, peer⟩
    | (.ended, peer) => stopMismatch { x with peer } step stream expected
    -- The limit that is logged is the one that the peer reports.
    | (.failed (.silence limit), peer) => stopTimeout { x with peer } step stream expected limit
    | (.failed error, peer) => stop { x with peer } (.broken step error.message)
termination_by Peer.supply x.peer
decreasing_by exact Peer.supply_lt _h

/-- Takes whatever is pending, and logs it. -/
def takeAny (stream : Stream) (x : Exchange σ) : Turn σ :=
  let (taken, session) := x.session.take stream
  goOn { x with session := session.noteTaken stream taken }

/-- Waits for any output: what is pending if there is something, and otherwise one chunk. -/
def awaitAny (limit : Option Duration) (step : Nat) (stream : Stream) (x : Exchange σ) : Turn σ :=
  if x.session.pending stream = [] then
    match Peer.receive x.peer stream limit with
    | (.chunk octets, peer) => takeAny stream ⟨x.session.append stream octets, peer⟩
    | (.ended, peer) => stop { x with peer } (.noOutput step stream)
    | (.failed (.silence _), peer) => stop { x with peer } (.timeout step stream "" "")
    | (.failed error, peer) => stop { x with peer } (.broken step error.message)
  else takeAny stream x

/-- A text without the newlines at its end. -/
def withoutNewlines (text : String) : String :=
  String.ofList (text.toList.reverse.dropWhile (· = '\n')).reverse

/-- Sends the input of a step, if it has one. -/
def sendInput (step : Nat) (input : Option String) (x : Exchange σ) : Turn σ :=
  match input with
  | none => goOn x
  | some text =>
    let x := x.mapSession (·.note s!"> {withoutNewlines text}")
    match Peer.send x.peer text with
    | (.ok (), peer) => goOn { x with peer }
    | (.error error, peer) => stop { x with peer } (.broken step error.message)

/-- Awaits what a step expects, if it expects anything. -/
def awaitExpectation (limit : Option Duration) (step : Nat) (expectation : Option Expectation)
    (x : Exchange σ) : Turn σ :=
  match expectation with
  | none => goOn x
  | some ⟨stream, some text⟩ => x.awaitText limit step stream text
  | some ⟨stream, none⟩ => x.awaitAny limit step stream

/-- Logs the comment of a step, if it has one. -/
def noteComment (comment : Option String) (x : Exchange σ) : Exchange σ :=
  match comment with
  | none => x
  | some text => x.mapSession (·.note s!"# {text}")

/-- Takes one step. -/
def takeStep (limit : Option Duration) (number : Nat) (step : Step) (x : Exchange σ) : Turn σ :=
  let turn := sendInput number step.input (x.noteComment step.comment)
  match turn.verdict with
  | some _ => turn
  | none => turn.exchange.awaitExpectation limit number step.expectation

/-- Takes steps, the first of which has the given number, until one of them ends the play. -/
def takeSteps (limit : Option Duration) (number : Nat) (x : Exchange σ) : List Step → Turn σ
  | [] => goOn x
  | step :: rest =>
    let turn := x.takeStep limit number step
    match turn.verdict with
    | some _ => turn
    | none => turn.exchange.takeSteps limit (number + 1) rest

/-- Gathers what still comes on a stream, until it ends or a read fails. -/
def gather (grace : Duration) (stream : Stream) (x : Exchange σ) : Exchange σ :=
  match _h : Peer.receive x.peer stream (some grace) with
  | (.chunk octets, peer) => gather grace stream ⟨x.session.append stream octets, peer⟩
  | (.ended, peer) => { x with peer }
  | (.failed _, peer) => { x with peer }
termination_by Peer.supply x.peer
decreasing_by exact Peer.supply_lt _h

/-- The text of an exit code; without one, a signal ended the program. -/
def exitText : Option Int → String
  | some code => toString code
  | none => "signal"

/-- The longest that a read waits once the program has ended. -/
def longestGrace : Duration := .milliseconds 100

/-- How long a read waits once the program has ended: something it left behind may hold the
streams open. -/
def graceOf (limit : Option Duration) : Duration :=
  match limit with
  | none => longestGrace
  | some limit => limit.shorter longestGrace

/-- Waits for the end of the program, and gathers what it still says. -/
def close (limit : Option Duration) (number : Nat) (x : Exchange σ) : Turn σ :=
  match Peer.wait x.peer with
  | (.error error, peer) => stop { x with peer } (.broken number error.message)
  | (.ok code, peer) =>
    let session := { x.session with exitCode := code }.note s!"[exit {exitText code}]"
    let x : Exchange σ := ⟨session, peer⟩
    goOn ((x.gather (graceOf limit) .stdout).gather (graceOf limit) .stderr)

end Exchange

variable {σ : Type} [Peer σ]

/-- Plays steps in a session that goes on from what is pending and logged in it. Every read waits
at most for the limit, if there is one. -/
def playSteps (limit : Option Duration) (steps : List Step) (x : Exchange σ)
    : Verdict × Exchange σ :=
  let turn := x.takeSteps limit 1 steps
  match turn.verdict with
  | some verdict => (verdict, turn.exchange)
  | none =>
    if Step.closesLast steps then
      let last := turn.exchange.close limit steps.length
      (last.verdict.getD (.passed last.exchange.session.exitCode), last.exchange)
    else (.passed turn.exchange.session.exitCode, turn.exchange)

/-- Plays a scenario in a session. -/
def play (limit : Option Duration) (scenario : Scenario) (x : Exchange σ) : Verdict × Exchange σ :=
  playSteps limit scenario.steps x

/-- Plays a scenario in a session of its own, of which only the verdict is kept. -/
def playFresh (limit : Option Duration) (scenario : Scenario) (peer : σ) : Verdict × σ :=
  let (verdict, x) := play limit scenario ⟨{}, peer⟩
  (verdict, x.peer)

end Dialogue
