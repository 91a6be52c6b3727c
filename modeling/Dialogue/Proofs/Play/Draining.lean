import Dialogue.Proofs.Play.AfterWait
import Dialogue.Proofs.Play.Rationing

/-!
How long the end of a play takes. Once the end of the program was waited for, each read has a limit,
but a read that brought a chunk is followed by another: there are as many reads as chunks, and one
more for each stream. The chunks are the other side's to choose, so no number of reads is enough
for every play, and with another side that never stops talking the play is never over.
-/

namespace Dialogue

-----------------------------------------------------------------------------------------
-- Counting reads
-----------------------------------------------------------------------------------------

/-- Whether a call brought a chunk on a stream. -/
def Call.broughtOn (stream : Stream) : Call → Bool
  | .receive asked _ (.chunk _) => asked == stream
  | _ => false

/-- How many chunks calls brought on a stream. -/
def chunksOn (stream : Stream) (calls : List Call) : Nat :=
  calls.countP (Call.broughtOn stream)

/-- Calls bring their chunks one after the other. -/
theorem chunksOn_append (stream : Stream) (calls more : List Call)
    : chunksOn stream (calls ++ more) = chunksOn stream calls + chunksOn stream more :=
  List.countP_append

/-- Reads of one stream bring nothing on another. -/
theorem chunksOn_reads_of_ne {stream asked : Stream} (ne : asked ≠ stream)
    (limit : Option Duration) (answers : List Reception)
    : chunksOn stream (Call.reads asked limit answers) = 0 := by
  refine List.countP_eq_zero.mpr ?_
  intro call made
  obtain ⟨answer, -, rfl⟩ := List.mem_map.mp made
  cases answer <;> simp [Call.broughtOn, ne]

/-- Reads that go on until one brings no chunk are one more than the chunks that they bring. -/
theorem Exhausts.length_eq {answers : List Reception} (exhausts : Exhausts answers)
    (stream : Stream) (limit : Option Duration)
    : answers.length = chunksOn stream (Call.reads stream limit answers) + 1 := by
  obtain ⟨chunks, last, rfl, silent⟩ := exhausts
  have all : chunksOn stream (Call.reads stream limit (chunks.map .chunk)) = chunks.length := by
    rw [chunksOn, Call.reads, List.map_map, List.countP_map]
    exact List.countP_eq_length.mpr fun _ _ => beq_self_eq_true stream
  have none : chunksOn stream (Call.reads stream limit [last]) = 0 := by
    cases last with
    | chunk octets => exact absurd rfl (silent octets)
    | ended => rfl
    | failed _ => rfl
  rw [Call.reads, List.map_append, ← Call.reads, ← Call.reads, chunksOn_append, all, none,
    List.length_append, List.length_map]
  rfl

/-- Reads of a stream with a limit are so many times that read. -/
theorem filterMap_read?_reads (stream : Stream) (limit : Option Duration)
    (answers : List Reception)
    : (Call.reads stream limit answers).filterMap Call.read?
      = List.replicate answers.length (stream, limit) := by
  rw [Call.reads, List.filterMap_map, ← List.map_const']
  exact congrFun List.filterMap_eq_map' answers

-----------------------------------------------------------------------------------------
-- As many reads as chunks
-----------------------------------------------------------------------------------------

variable {σ : Type}

/-- The calls after a wait that was answered with a code are reads, each with a limit: of stdout,
one more than chunks come on it, and then of stderr, again one more than chunks come on that.
-/
theorem play_reads_after_wait [Peer σ] {limit : Option Duration} {scenario : Scenario}
    {x : Exchange σ} {before after : List Call} {code : Option Int}
    (made : playCalls limit scenario.steps x = before ++ .wait (.ok code) :: after)
    : let grace := some (Exchange.graceOf limit)
      after.filterMap Call.read?
          = List.replicate (chunksOn .stdout after + 1) (.stdout, grace)
            ++ List.replicate (chunksOn .stderr after + 1) (.stderr, grace)
        ∧ after.length = chunksOn .stdout after + chunksOn .stderr after + 2 := by
  intro grace
  have apart : Stream.stdout ≠ .stderr := by decide
  obtain ⟨out, err, parted, outEnds, errEnds⟩ := (playSteps_settled made).drains
  have outLength : out.length = chunksOn .stdout after + 1 := by
    rw [parted, chunksOn_append, chunksOn_reads_of_ne apart.symm]
    exact outEnds.length_eq ..
  have errLength : err.length = chunksOn .stderr after + 1 := by
    rw [parted, chunksOn_append, chunksOn_reads_of_ne apart, Nat.zero_add]
    exact errEnds.length_eq ..
  refine ⟨?_, ?_⟩
  · rw [← outLength, ← errLength, parted, List.filterMap_append, filterMap_read?_reads,
      filterMap_read?_reads]
  · have length := congrArg List.length parted
    rw [List.length_append, Call.reads, Call.reads, List.length_map, List.length_map] at length
    omega

/-- Two chunks come on stdout after the wait and one on stderr, before both are silent. -/
theorem play_reads_after_wait_of_late_chunks
    : let scenario : Scenario :=
        { name := "late", steps := [{ input := some "go\n", closes := true }] }
      let peer : Canned :=
        { stdout := [.chunk [97], .chunk [98]], stderr := [.chunk [99]],
          afterLast := .heldOpen, exitCode := some 0 }
      let calls := playCalls none scenario.steps ⟨{}, peer⟩
      let grace := some Exchange.longestGrace
      ∃ after,
        calls = [.send "go\n" (.ok ())] ++ .wait (.ok (some 0)) :: after
          ∧ after.filterMap Call.read?
            = List.replicate 3 (.stdout, grace) ++ List.replicate 2 (.stderr, grace)
          ∧ after.length = 5 := by
  intro scenario peer calls grace
  have made : calls = _ :=
    Played.calls_eq
      (.closed (.satisfied (.sent rfl .nothing) .done) rfl
        (.gathered (.chunk (.chunk .failed)) (.chunk .failed)))
      (.send rfl (.wait rfl (.receive rfl (.receive rfl (.receive rfl
        (.receive rfl (.receive rfl (.nil _))))))))
  exact ⟨_, made, play_reads_after_wait made⟩

-----------------------------------------------------------------------------------------
-- No number of reads is enough
-----------------------------------------------------------------------------------------

/-- Prepared chunks are all read, one after the other, by induction on their number. -/
theorem Canned.answered_replicate (peer : Canned) (octets : Octets) (limit : Option Duration)
    (count : Nat)
    : Answered { peer with stdout := List.replicate count (.chunk octets) }
        (Call.reads .stdout limit (List.replicate count (.chunk octets)))
        { peer with stdout := [] } := by
  induction count with
  | zero => exact .nil _
  | succ count ih => exact .receive rfl ih

/-- Chunks are gathered up to the end of the stream, by induction on their number. -/
theorem Gathered.exists_of_replicate (stream : Stream) (session : Session) (octets : Octets)
    (count : Nat)
    : ∃ final,
        Gathered stream session (List.replicate count (.chunk octets) ++ [.ended]) final := by
  induction count generalizing session with
  | zero => exact ⟨session, .ended⟩
  | succ count ih =>
      obtain ⟨final, rest⟩ := ih (session.append stream octets)
      exact ⟨final, .chunk rest⟩

/-- With a number of chunks prepared on stdout, a play that sends its input and then closes reads
all of them after the wait.
-/
theorem playCalls_of_replicate (limit : Option Duration) (session : Session) (text : String)
    (octets : Octets) (count : Nat)
    : let peer : Canned := { stdout := List.replicate count (.chunk octets) }
      let grace := some (Exchange.graceOf limit)
      playCalls limit [{ input := some text, closes := true }] ⟨session, peer⟩
        = [.send text (.ok ())] ++ .wait (.ok none)
          :: (Call.reads .stdout grace (List.replicate count (.chunk octets) ++ [.ended])
            ++ Call.reads .stderr grace [.ended]) := by
  intro peer grace
  obtain ⟨final, gathered⟩ := Gathered.exists_of_replicate .stdout
    ((session.noteSent text).noteExit none) octets count
  have taken : StepsTaken limit 1 [{ input := some text, closes := true }] session
      ([.send text (.ok ())] ++ []) (session.noteSent text) none :=
    .satisfied (.sent rfl .nothing) .done
  have answered : Answered { peer with sent := 1, waited := true }
      (Call.reads .stdout grace (List.replicate count (.chunk octets) ++ [.ended])
        ++ Call.reads .stderr grace [.ended])
      { sent := 1, waited := true } := by
    rw [Call.reads, List.map_append, List.append_assoc]
    exact (Canned.answered_replicate { sent := 1, waited := true } octets grace count).append
      (.receive rfl (.receive rfl (.nil _)))
  exact Played.calls_eq (.closed taken rfl (.gathered gathered .ended))
    (.send rfl (.wait rfl answered))

/-- How often a play reads after the wait has no bound that its limit decides: there may be as many
chunks still to come as the bound says, and then two reads are too many.
-/
theorem reads_after_wait_unbounded
    : ¬ ∀ limit,
        ∃ bound,
          ∀ (scenario : Scenario) (session : Session) (peer : Canned) (before after : List Call)
            (code : Option Int),
            playCalls limit scenario.steps ⟨session, peer⟩ = before ++ .wait (.ok code) :: after
              → (after.filterMap Call.read?).length ≤ bound := by
  intro bounded
  obtain ⟨bound, holds⟩ := bounded none
  let scenario : Scenario :=
    { name := "late", steps := [{ input := some "go\n", closes := true }] }
  have few := holds scenario {} _ _ _ _ (playCalls_of_replicate none {} "go\n" [120] bound)
  simp only [List.filterMap_append, filterMap_read?_reads, List.length_append,
    List.length_replicate, List.length_singleton] at few
  omega

-----------------------------------------------------------------------------------------
-- Another side that never stops talking
-----------------------------------------------------------------------------------------

/-- Another side that, once it was waited for, has yet another chunk for every read of a stream. -/
structure Conduct.TalksOn (conduct : Conduct σ) (stream : Stream) (talking : σ → Prop)
    : Prop where
  begins {state next : σ} {code : Option Int} (waits : conduct.wait state = (.ok code, next))
    : talking next
  goesOn {state next : σ} {asked : Stream} {limit : Option Duration} {answer : Reception}
    (talks : talking state) (came : conduct.receive state asked limit = (answer, next))
    : talking next
  speaks {state next : σ} {limit : Option Duration} {answer : Reception}
    (talks : talking state) (came : conduct.receive state stream limit = (answer, next))
    : ∃ octets, answer = .chunk octets

/-- Another side that takes everything and says the same with every read. -/
def Conduct.repeating (octets : Octets) : Conduct Unit where
  send _ _ := (.ok (), ())
  receive _ _ _ := (.chunk octets, ())
  wait _ := (.ok none, ())

/-- One that says the same with every read talks on, on each stream. -/
theorem Conduct.repeating_talksOn (octets : Octets) (stream : Stream)
    : (repeating octets).TalksOn stream fun _ => True where
  begins _ := trivial
  goesOn _ _ := trivial
  speaks := by
    intro _ _ _ _ _ came
    exact ⟨octets, (congrArg Prod.fst came).symm⟩

variable {conduct : Conduct σ} {stream : Stream} {talking : σ → Prop}

/-- Calls after a wait that was answered with a code start while the other side is talking, by
induction on the calls before the wait.
-/
theorem Conduct.TalksOn.talking_of_wait (talksOn : conduct.TalksOn stream talking)
    {state last : σ} {before after : List Call} {code : Option Int}
    (answers : conduct.Answers state (before ++ .wait (.ok code) :: after) last)
    : ∃ next, talking next ∧ conduct.Answers next after last := by
  induction before generalizing state with
  | nil =>
      cases answers with
      | wait made rest => exact ⟨_, talksOn.begins made, rest⟩
  | cons call before ih =>
      cases answers with
      | send _ rest => exact ih rest
      | receive _ rest => exact ih rest
      | wait _ rest => exact ih rest

/-- While the other side is talking, each read of its stream brings a chunk, by induction on the
reads, of any stream, that it is one of.
-/
theorem Conduct.TalksOn.chunk_of_mem (talksOn : conduct.TalksOn stream talking)
    {state last : σ} {limit : Option Duration} {calls : List Call} {answer : Reception}
    (answers : conduct.Answers state calls last) (talks : talking state)
    (reads : ∀ call ∈ calls, ∃ asked limit answer, call = .receive asked limit answer)
    (made : .receive stream limit answer ∈ calls)
    : ∃ octets, answer = .chunk octets := by
  induction answers with
  | nil => cases made
  | send _ _ _ =>
      obtain ⟨_, _, _, same⟩ := reads _ List.mem_cons_self
      cases same
  | wait _ _ _ =>
      obtain ⟨_, _, _, same⟩ := reads _ List.mem_cons_self
      cases same
  | receive came _ ih =>
      cases made with
      | head _ => exact talksOn.speaks talks came
      | tail _ later =>
          exact ih (talksOn.goesOn talks came)
            (fun call member => reads call (List.mem_cons_of_mem _ member)) later

section Settled

variable {limit : Option Duration} {begun final : Session} {code : Option Int}
  {after : List Call} {verdict : Verdict}

/-- Once the wait has settled a play, there are only reads. -/
theorem SettledByWait.reads (settled : SettledByWait limit begun code after verdict final)
    {call : Call} (made : call ∈ after)
    : ∃ asked limit answer, call = .receive asked limit answer := by
  obtain ⟨out, err, rfl, -, -⟩ := settled.drains
  rcases List.mem_append.mp made with made | made
  all_goals
    obtain ⟨answer, -, rfl⟩ := List.mem_map.mp made
    exact ⟨_, _, answer, rfl⟩

/-- Once the wait has settled a play, some read of each stream brings no chunk: the last one. -/
theorem SettledByWait.exists_last (settled : SettledByWait limit begun code after verdict final)
    (stream : Stream)
    : ∃ last,
        .receive stream (some (Exchange.graceOf limit)) last ∈ after
          ∧ ∀ octets, last ≠ .chunk octets := by
  obtain ⟨out, err, rfl, ⟨_, last, rfl, silent⟩, ⟨_, least, rfl, mute⟩⟩ := settled.drains
  cases stream with
  | stdout =>
      refine ⟨last, List.mem_append_left _ ?_, silent⟩
      exact List.mem_map_of_mem (List.mem_append_right _ List.mem_cons_self)
  | stderr =>
      refine ⟨least, List.mem_append_right _ ?_, mute⟩
      exact List.mem_map_of_mem (List.mem_append_right _ List.mem_cons_self)

end Settled

/-- With another side that talks on, no play in which the end was waited for is ever over. Witness:
one that is over is a play with a peer of a finite supply, and the wait has settled it.
-/
theorem Conduct.TalksOn.wait_not_mem (talksOn : conduct.TalksOn stream talking)
    {limit : Option Duration} {steps : List Step} {session final : Session}
    {calls : List Call} {verdict : Verdict} {state last : σ}
    (played : Played limit steps session calls final verdict)
    (answers : conduct.Answers state calls last) (code : Option Int)
    : .wait (.ok code) ∉ calls := by
  intro waited
  obtain ⟨before, after, rfl⟩ := List.append_of_mem waited
  -- Whatever the other side could still say, so far it has said only so much.
  have made : playCalls limit steps ⟨session, (⟨state, _⟩ : Rationed conduct)⟩ = _ :=
    played.calls_eq (answers.rationed 0)
  have settled := playSteps_settled made
  obtain ⟨next, talks, rest⟩ := talksOn.talking_of_wait answers
  obtain ⟨last, read, silent⟩ := settled.exists_last stream
  obtain ⟨octets, same⟩ := talksOn.chunk_of_mem rest talks (fun _ => settled.reads) read
  exact silent octets same

end Dialogue
