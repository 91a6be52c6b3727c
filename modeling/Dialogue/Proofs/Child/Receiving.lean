import Dialogue.Child.Basic
import Dialogue.Proofs.Child.History
import Dialogue.Proofs.Play.Delivering
import Mathlib.Data.List.Basic

/-!
Calls on a child are histories of its readers. What a call collects the workers read, and what it
answers is taken from the reader of its stream, or is silence; so what holds of every history holds
of what a child says.
-/

namespace Dialogue

namespace Reader

variable {stream : Stream} {reader next last : Reader}

-----------------------------------------------------------------------------------------
-- A worker that reads
-----------------------------------------------------------------------------------------

/-- Two histories, the second of which starts where the first ends, are one. -/
theorem History.append {events more : List Event} (first : History stream reader events next)
    (second : History stream next more last)
    : History stream reader (events ++ more) last := by
  induction first with
  | nil _ => exact second
  | cons happens _ ih => exact .cons happens (ih second)

/-- The answer to one who has waited as long as the limit allows is one that a history gives. -/
theorem happens_answer (stream : Stream) (limit : Duration) (reader : Reader)
    : Happens stream reader (.asked (some limit) (reader.answer stream limit).1)
        (reader.answer stream limit).2 := by
  unfold answer
  cases there : reader.take? stream with
  | some found => exact .taken there
  | none =>
      refine .silent ?_
      cases closed : reader.closed with
      | false => rfl
      | true => simp [take?, closed] at there

/-- The pieces into which octets are cut are not empty, and the worker reads each at once. -/
theorem fits_of_mem_cut {count : Nat} {octets piece : Octets} (member : piece ∈ cut count octets)
    : piece ≠ [] ∧ piece.length ≤ readSize := by
  induction count generalizing octets with
  | zero => cases member
  | succ count ih =>
      cases octets with
      | nil => cases member
      | cons octet octets =>
          rcases List.mem_cons.mp member with rfl | member
          · exact ⟨List.cons_ne_nil _ _, List.length_take_le _ _⟩
          · exact ih member

/-- The pieces into which octets are cut are all of them. -/
theorem flatten_cut {count : Nat} {octets : Octets} (enough : octets.length ≤ count)
    : (cut count octets).flatten = octets := by
  induction count generalizing octets with
  | zero => exact (List.length_eq_zero_iff.mp (Nat.le_zero.mp enough)).symm
  | succ count ih =>
      cases octets with
      | nil => rfl
      | cons octet octets =>
          have fewer : ((octet :: octets).drop readSize).length ≤ count := by
            rw [List.length_drop]
            have positive : 0 < readSize := by decide
            omega
          rw [cut, List.flatten_cons, ih fewer, List.take_append_drop]
          exact List.cons_ne_nil _ _

/-- Pieces that are not empty are read one after the other, by induction on them. -/
theorem History.of_pieces {pieces : List Octets} (working : reader.working = true)
    (fits : ∀ piece ∈ pieces, piece ≠ [] ∧ piece.length ≤ readSize)
    : History stream reader (pieces.map fun piece => .read (.octets piece))
        (pieces.foldl (fun reader piece => reader.work (.octets piece)) reader) := by
  induction pieces generalizing reader with
  | nil => exact .nil reader
  | cons piece pieces ih =>
      rw [List.forall_mem_cons] at fits
      obtain ⟨octet, octets, rfl⟩ := List.exists_cons_of_ne_nil fits.1.1
      have still : (reader.work (.octets (octet :: octets))).working = true := by
        simp [work, working]
      exact .cons (.read working fits.1.2) (ih still fits.2)

/-- A worker that has not stopped puts all of one write behind the queue. -/
theorem queued_workAll (working : reader.working = true) (octets : Octets)
    : (reader.workAll octets).queued = reader.queued ++ octets := by
  have history : History .stdout reader _ (reader.workAll octets) :=
    .of_pieces working fun piece => fits_of_mem_cut
  have all := history.queued_eq
  rw [List.flatMap_map, List.flatMap_map] at all
  have brought
      : (cut octets.length octets).flatMap (fun piece => Event.brought (.read (.octets piece)))
        = octets :=
    List.flatMap_id.trans (flatten_cut (Nat.le_refl _))
  have returned
      : (cut octets.length octets).flatMap (fun piece => Event.returned (.read (.octets piece)))
        = [] :=
    List.flatMap_eq_nil_iff.mpr fun _ _ => rfl
  rw [brought, returned] at all
  exact all.symm

/-- A worker that has stopped reads nothing. -/
theorem work_of_stopped (stopped : reader.working = false) (answer : SourceAnswer)
    : reader.work answer = reader := by
  unfold work
  split
  · rfl
  · rw [← stopped]
  · simp [stopped]
  · simp [stopped]

/-- The answer that one who asked got. -/
def Event.answer? : Event → Option Reception
  | .read _ => none
  | .asked _ answer => some answer

/-- A reader gives these answers, in order, to those who ask, whatever its worker reads before each
of them and after the last.
-/
def Gives (stream : Stream) (reader : Reader) (answers : List Reception) (next : Reader) : Prop :=
  ∃ events, History stream reader events next ∧ events.filterMap Event.answer? = answers

namespace Gives

variable {answers more : List Reception}

/-- A reader to which nothing happens gives no answers. -/
theorem refl (reader : Reader)
    : Gives stream reader [] reader :=
  ⟨[], .nil reader, rfl⟩

/-- Answers that are given one after the other are given. -/
theorem trans (first : Gives stream reader answers next) (second : Gives stream next more last)
    : Gives stream reader (answers ++ more) last := by
  obtain ⟨before, first, rfl⟩ := first
  obtain ⟨after, second, rfl⟩ := second
  exact ⟨before ++ after, first.append second, List.filterMap_append⟩

/-- One who asks is given an answer. -/
theorem asked {limit : Option Duration} {answer : Reception}
    (happens : Happens stream reader (.asked limit answer) next)
    : Gives stream reader [answer] next :=
  ⟨[.asked limit answer], .cons happens (.nil next), rfl⟩

/-- A read that fits gives no answers, whether the worker takes it or has stopped. -/
theorem work {answer : SourceAnswer} (fits : answer.Fits)
    : Gives stream reader [] (reader.work answer) := by
  cases working : reader.working with
  | true => exact ⟨[.read answer], .cons (.read working fits) (.nil _), rfl⟩
  | false =>
      rw [work_of_stopped working]
      exact .refl reader

/-- All of one write gives no answers, whether the worker takes it or has stopped. -/
theorem workAll (octets : Octets)
    : Gives stream reader [] (reader.workAll octets) := by
  cases working : reader.working with
  | true =>
      refine ⟨_, .of_pieces working fun piece => fits_of_mem_cut, ?_⟩
      rw [List.filterMap_map]
      exact List.filterMap_eq_nil_iff.mpr fun _ _ => rfl
  | false =>
      have idle : reader.workAll octets = reader :=
        List.foldl_fixed' (fun piece => work_of_stopped working (.octets piece)) _
      rw [idle]
      exact .refl reader

end Gives

end Reader

-----------------------------------------------------------------------------------------
-- Calls on a child
-----------------------------------------------------------------------------------------

namespace Child

open Reader

variable {ω : Type} {child next last : Child ω} {stream asked : Stream}

/-- A reader that is set is the reader of its stream. -/
@[simp]
theorem reader_setReader (child : Child ω) (stream : Stream) (reader : Reader)
    : (child.setReader stream reader).reader stream = reader := by
  cases stream <;> rfl

/-- Setting the reader of a stream leaves that of every other alone. -/
theorem reader_setReader_of_ne (ne : asked ≠ stream) (child : Child ω) (reader : Reader)
    : (child.setReader stream reader).reader asked = child.reader asked := by
  cases stream <;> cases asked <;> first | rfl | exact absurd rfl ne

/-- What the reader of one stream gives, set as its reader, is given on that stream; on any other
nothing is.
-/
theorem setReader_gives {reader : Reader} {answers : List Reception}
    (gives : Gives asked (child.reader asked) answers reader) (stream : Stream)
    : Gives stream (child.reader stream) (if asked = stream then answers else [])
        ((child.setReader asked reader).reader stream) := by
  rcases eq_or_ne stream asked with rfl | ne
  · rw [reader_setReader, if_pos rfl]
    exact gives
  · rw [reader_setReader_of_ne ne, if_neg ne.symm]
    exact .refl _

/-- What the worker of one stream reads no other does. -/
theorem setReader_worked {reader : Reader} (worked : Gives asked (child.reader asked) [] reader)
    (stream : Stream)
    : Gives stream (child.reader stream) [] ((child.setReader asked reader).reader stream) := by
  have gives := setReader_gives worked stream
  rw [ite_self] at gives
  exact gives

/-- An answer of the source is read by the worker of its stream. -/
theorem absorb_gives (child : Child ω) (answer : Stream × SourceAnswer) (stream : Stream)
    : Gives stream (child.reader stream) [] ((child.absorb answer).reader stream) := by
  unfold absorb
  split
  · exact setReader_worked (.workAll _) stream
  · next asked other few =>
      refine setReader_worked (.work ?_) stream
      rcases other with (_ | ⟨octet, octets⟩) | _ | fault
      · exact Nat.zero_le _
      · exact absurd rfl (few octet octets)
      · trivial
      · trivial

/-- Answers of the source are read by the workers of their streams, by induction on the answers. -/
theorem absorbAll_gives (child : Child ω) (answers : List (Stream × SourceAnswer))
    (stream : Stream)
    : Gives stream (child.reader stream) [] ((answers.foldl absorb child).reader stream) := by
  induction answers generalizing child with
  | nil => exact .refl _
  | cons answer answers ih => exact (child.absorb_gives answer stream).trans (ih _)

/-- What a child collects its workers read. -/
theorem collect_gives [ChildSystem ω] (child : Child ω) (asked : Stream)
    (limit : Option Duration) (stream : Stream)
    : Gives stream (child.reader stream) [] ((child.collect asked limit).reader stream) := by
  unfold collect
  split
  next answers system _ =>
    have same : { child with system }.reader stream = child.reader stream := by
      cases stream <;> rfl
    rw [← same]
    exact absorbAll_gives ..

/-- What a child passes on it takes from the reader of the stream, and uses up some of its
allowance.
-/
theorem pass_eq_some {answer : Reception} (passed : child.pass stream = some (answer, next))
    (supplied : 0 < child.allowance)
    : ∃ reader left,
        (child.reader stream).take? stream = some (answer, reader)
          ∧ next = { child.setReader stream reader with allowance := left }
          ∧ child.allowance ≤ left + 1 := by
  have same (reader : Reader)
      : child.allowance ≤ (child.setReader stream reader).allowance + 1 := by
    rw [allowance_setReader]
    exact Nat.le_succ _
  unfold pass at passed
  split at passed
  · cases passed
  · next octets reader there =>
      split at passed
      · next none => exact absurd none (Nat.ne_of_gt supplied)
      · next left enough =>
          cases passed
          exact ⟨reader, left, there, rfl, Nat.le_of_eq enough⟩
  · next reader there =>
      cases passed
      exact ⟨reader, _, there, rfl, same reader⟩
  · next error reader there =>
      cases passed
      exact ⟨reader, _, there, rfl, same reader⟩

/-- Where a child has nothing to pass on, its reader has nothing to take. -/
theorem take?_of_pass (nothing : child.pass stream = none)
    : (child.reader stream).take? stream = none := by
  unfold pass at nothing
  split at nothing
  · next none => exact none
  · split at nothing <;> cases nothing
  · cases nothing
  · cases nothing

/-- What a child passes on is given by the reader of the stream, and by no other. -/
theorem pass_gives {answer : Reception} (passed : child.pass asked = some (answer, next))
    (supplied : 0 < child.allowance) (stream : Stream)
    : Gives stream (child.reader stream) (if asked = stream then [answer] else [])
          (next.reader stream)
        ∧ child.allowance ≤ next.allowance + 1 := by
  obtain ⟨reader, left, there, rfl, used⟩ := pass_eq_some passed supplied
  refine ⟨?_, used⟩
  have same
      : Child.reader { child.setReader asked reader with allowance := left } stream
        = (child.setReader asked reader).reader stream := by
    cases stream <;> rfl
  have taken : Happens asked (child.reader asked) (.asked none answer) reader := .taken there
  rw [same]
  exact setReader_gives (.asked taken) stream

/-- Where a child has nothing to pass on and a limit runs out, silence is given. -/
theorem silent_gives (nothing : child.pass asked = none) (limit : Duration) (stream : Stream)
    : Gives stream (child.reader stream)
        (if asked = stream then [.failed (.silence limit)] else []) (child.reader stream) := by
  rcases eq_or_ne stream asked with rfl | ne
  · have happens := happens_answer stream limit (child.reader stream)
    rw [answer, take?_of_pass nothing] at happens
    rw [if_pos rfl]
    exact .asked happens
  · rw [if_neg ne.symm]
    exact .refl _

variable [ChildSystem ω]

/-- Sending leaves the readers and the allowance alone. -/
theorem send_keeps {text : String} {answer : Except PeerError Unit}
    (sent : child.send text = (answer, next))
    : (∀ stream, next.reader stream = child.reader stream)
        ∧ next.allowance = child.allowance := by
  unfold send at sent
  split at sent
  · cases sent
    exact ⟨fun _ => rfl, rfl⟩
  · split at sent
    · cases sent
      exact ⟨fun _ => rfl, rfl⟩
    · split at sent
      · cases sent
        exact ⟨fun stream => by cases stream <;> rfl, rfl⟩
      · split at sent <;> cases sent <;> exact ⟨fun stream => by cases stream <;> rfl, rfl⟩

/-- Waiting leaves the readers and the allowance alone. -/
theorem wait_keeps {answer : Except PeerError (Option Int)}
    (waited : child.wait = (answer, next))
    : (∀ stream, next.reader stream = child.reader stream)
        ∧ next.allowance = child.allowance := by
  unfold wait at waited
  split at waited
  · cases waited
    exact ⟨fun _ => rfl, rfl⟩
  · dsimp only at waited
    split at waited <;> cases waited <;> exact ⟨fun stream => by cases stream <;> rfl, rfl⟩

/-- What a child receives within a limit is given by the reader of the stream, and by no other,
whatever the workers read meanwhile.
-/
theorem receive_gives {limit : Duration} {answer : Reception}
    (received : child.receive asked (some limit) = (answer, next))
    (supplied : 0 < child.allowance) (stream : Stream)
    : Gives stream (child.reader stream) (if asked = stream then [answer] else [])
          (next.reader stream)
        ∧ child.allowance ≤ next.allowance + 1 := by
  unfold receive at received
  cases passed : child.pass asked with
  | some found =>
      rw [passed] at received
      exact pass_gives (passed.trans (congrArg some received)) supplied stream
  | none =>
      rw [passed] at received
      have collected := child.collect_gives asked (some limit) stream
      have kept := allowance_collect child asked (some limit)
      dsimp only at received
      generalize child.collect asked (some limit) = middle at received collected kept
      rw [← kept] at supplied ⊢
      cases passed : middle.pass asked with
      | some found =>
          rw [passed] at received
          obtain ⟨gives, used⟩ := pass_gives (passed.trans (congrArg some received)) supplied stream
          exact ⟨collected.trans gives, used⟩
      | none =>
          rw [passed] at received
          -- Nothing came even now, so the limit has run out.
          obtain ⟨rfl, rfl⟩ := Prod.mk.inj received
          exact ⟨collected.trans (silent_gives passed limit stream), Nat.le_succ _⟩

/-- Whatever calls are made on a child, the answers on each stream are what its reader gives, so
every fact about histories holds of them. By induction on the calls; a child passes on no more
chunks than it is allowed to, and a call without a limit may never come back.
-/
theorem answered_gives {calls : List Call} (answered : Answered child calls last)
    (supplied : calls.length ≤ child.allowance)
    (limited : ∀ asked answer, .receive asked none answer ∉ calls) (stream : Stream)
    : Gives stream (child.reader stream) (answersOn stream calls) (last.reader stream) := by
  induction answered with
  | nil child => exact .refl _
  | send made rest ih =>
      obtain ⟨same, kept⟩ := send_keeps made
      rw [← same]
      refine ih ?_ fun asked answer member => limited asked answer (List.mem_cons_of_mem _ member)
      exact kept ▸ Nat.le_of_succ_le supplied
  | wait made rest ih =>
      obtain ⟨same, kept⟩ := wait_keeps made
      rw [← same]
      refine ih ?_ fun asked answer member => limited asked answer (List.mem_cons_of_mem _ member)
      exact kept ▸ Nat.le_of_succ_le supplied
  | @receive child next last asked limit answer calls made rest ih =>
      cases limit with
      | none => exact absurd List.mem_cons_self (limited asked answer)
      | some limit =>
          rw [List.length_cons] at supplied
          obtain ⟨gives, used⟩ := receive_gives made (Nat.zero_lt_of_lt supplied) stream
          have enough : calls.length ≤ next.allowance :=
            Nat.le_of_succ_le_succ (Nat.le_trans supplied used)
          rw [answersOn_receive]
          refine gives.trans (ih enough ?_)
          exact fun asked answer member => limited asked answer (List.mem_cons_of_mem _ member)

end Child

end Dialogue
