import Dialogue.Text.Line
import Mathlib.Data.List.DropRight

/-!
Cutting texts. Whatever is cut at a separator has the pieces that the library's splitting gives. A
text is cut at its newlines; a carriage return at its end and the blanks around it can be taken
away. A finished text that is read line by line has just the lines that its endings end.
-/

namespace Dialogue

/-- What cuts a list at every separator, element by element, splits it as the library does; by
induction on the list.
-/
theorem eq_splitOn {α : Type} [DecidableEq α] {separator : α}
    {pieces : List α → List (List α)} (nil : pieces [] = [[]])
    (cons
      : ∀ a rest,
          pieces (a :: rest)
          = if a = separator then [] :: pieces rest
            else
              match pieces rest with
              | [] => [[a]]
              | piece :: others => (a :: piece) :: others)
    (list : List α)
    : pieces list = list.splitOn separator := by
  induction list with
  | nil => exact nil
  | cons a rest ih =>
      rw [cons, List.splitOn_cons_eq_if_modifyHead, ← ih]
      by_cases same : a = separator
      · rw [if_pos same, if_pos (beq_iff_eq.mpr same)]
      · rw [if_neg same, if_neg (mt beq_iff_eq.mp same)]
        cases parts : pieces rest with
        | nil => exact absurd (ih.symm.trans parts) (List.splitOn_ne_nil _ _)
        | cons piece others => rfl

/-- The first separator tells what is before it and what is behind it. -/
theorem append_separator_inj {α : Type} [DecidableEq α] {separator : α}
    {before after before' after' : List α}
    (absent : separator ∉ before) (absent' : separator ∉ before')
    (same : before ++ separator :: after = before' ++ separator :: after')
    : before = before' ∧ after = after' := by
  have pieces := congrArg (List.splitOn separator) same
  rw [List.splitOn_append_cons_self_of_not_mem absent,
    List.splitOn_append_cons_self_of_not_mem absent'] at pieces
  obtain ⟨rfl, -⟩ := List.cons_eq_cons.mp pieces
  exact ⟨rfl, (List.cons_eq_cons.mp (List.append_cancel_left same)).2⟩

/-- What is dropped from the end of a list because it equals `a` is a number of copies of `a`. -/
theorem exists_eq_rdropWhile_append_replicate {α : Type} [DecidableEq α] (a : α) (list : List α)
    : ∃ count, list = list.rdropWhile (· = a) ++ List.replicate count a := by
  have same : ∀ other ∈ list.rtakeWhile (· = a), other = a := by
    intro other member
    simpa using List.mem_rtakeWhile_imp member
  refine ⟨(list.rtakeWhile (· = a)).length, ?_⟩
  rw [← List.eq_replicate_of_mem same, List.rdropWhile_append_rtakeWhile]

/-- No `a` is left at the end. -/
theorem getLast?_rdropWhile_ne {α : Type} [DecidableEq α] (a : α) (list : List α)
    : (list.rdropWhile (· = a)).getLast? ≠ some a := by
  intro last
  obtain ⟨nonempty, same⟩ := List.mem_getLast?_eq_getLast last
  have other := List.rdropWhile_last_not (· = a) list nonempty
  exact other (decide_eq_true same.symm)

-----------------------------------------------------------------------------------------
-- Pieces of a text
-----------------------------------------------------------------------------------------

namespace Text

/-- Between its newlines a text has the pieces that the library's splitting gives. -/
theorem pieces_eq_splitOn (text : List Char)
    : pieces text = text.splitOn '\n' := by
  refine eq_splitOn rfl (fun _ rest => ?_) text
  rw [pieces]
  cases pieces rest <;> rfl

/-- No piece has a newline, by induction on the text. -/
theorem newline_not_mem_of_mem_pieces {text piece : List Char} (member : piece ∈ pieces text)
    : '\n' ∉ piece := by
  induction text generalizing piece with
  | nil =>
      rw [pieces, List.mem_singleton] at member
      exact member ▸ List.not_mem_nil
  | cons c rest ih =>
      rw [pieces] at member
      split at member
      · rcases List.mem_cons.mp member with rfl | member
        · exact List.not_mem_nil
        · exact ih member
      · next other =>
          split at member
          · rw [List.mem_singleton] at member
            simpa [member] using Ne.symm other
          · next first others eq =>
              rcases List.mem_cons.mp member with rfl | member
              · have tail : '\n' ∉ first := ih (eq ▸ List.mem_cons_self)
                simpa using ⟨Ne.symm other, tail⟩
              · exact ih (eq ▸ List.mem_cons_of_mem _ member)

/-- Lines that are written each with its newline are the pieces of what is written, before an empty
last one.
-/
theorem pieces_flatMap {lines : List (List Char)} (single : ∀ line ∈ lines, '\n' ∉ line)
    : pieces (lines.flatMap (· ++ ['\n'])) = lines ++ [[]] := by
  rw [pieces_eq_splitOn]
  induction lines with
  | nil => rfl
  | cons line lines ih =>
      rw [List.flatMap_cons, List.append_assoc, List.singleton_append,
        List.splitOn_append_cons_self_of_not_mem (single line List.mem_cons_self),
        ih (fun other member => single other (List.mem_cons_of_mem _ member)), List.cons_append]

/-- A carriage return at the end of a text is dropped from it. -/
@[simp]
theorem dropReturn_append (text : List Char)
    : dropReturn (text ++ ['\r']) = text := by
  simp [dropReturn]

/-- What is left without a carriage return was there before. -/
theorem mem_of_mem_dropReturn {text : List Char} {c : Char} (member : c ∈ dropReturn text)
    : c ∈ text := by
  unfold dropReturn at member
  split at member
  · exact List.dropLast_subset _ member
  · exact member

/-- What is left of a text without the blanks around it was there before. -/
theorem mem_of_mem_trim {text : List Char} {c : Char} (member : c ∈ trim text)
    : c ∈ text :=
  (List.dropWhile_suffix _).mem ((List.rdropWhile_prefix isBlank _).mem member)

/-- A text without the blanks around it has none there. Witness: dropping blanks at the end leaves
the first character, if any, in place.
-/
theorem trim_trim (text : List Char)
    : trim (trim text) = trim text := by
  have kept : (trim text).dropWhile isBlank = trim text := by
    rw [List.dropWhile_eq_self_iff]
    intro nonempty
    have start : trim text <+: text.dropWhile isBlank := List.rdropWhile_prefix isBlank _
    have long := nonempty.trans_le start.length_le
    have same : (trim text)[0] = (text.dropWhile isBlank)[0] := start.getElem nonempty
    have first := List.dropWhile_get_zero_not isBlank text long
    simpa [same] using first
  unfold trim at kept ⊢
  rw [kept]
  exact List.rdropWhile_idempotent isBlank _

-----------------------------------------------------------------------------------------
-- Lines of a finished text
-----------------------------------------------------------------------------------------

/-- A text and its lines: a newline ends a line, a carriage return before it counts as part of the
ending, and only the last line may have no ending.
-/
inductive HasLines : List Char → List (List Char) → Prop
  | nil : HasLines [] []
  | unended {line : List Char} (nonempty : line ≠ []) (single : '\n' ∉ line)
    : HasLines line [line]
  | ended {line rest : List Char} {lines : List (List Char)} (single : '\n' ∉ line)
    (plain : line.getLast? ≠ some '\r') (behind : HasLines rest lines)
    : HasLines (line ++ '\n' :: rest) (line :: lines)
  | returned {line rest : List Char} {lines : List (List Char)} (single : '\n' ∉ line)
    (behind : HasLines rest lines)
    : HasLines (line ++ '\r' :: '\n' :: rest) (line :: lines)

/-- No line has a newline in it, by induction on the lines. -/
theorem HasLines.newline_not_mem {text line : List Char} {lines : List (List Char)}
    (has : HasLines text lines) (member : line ∈ lines)
    : '\n' ∉ line := by
  induction has with
  | nil => exact absurd member List.not_mem_nil
  | unended _ single => exact List.mem_singleton.mp member ▸ single
  | ended single _ _ ih | returned single _ ih =>
      rcases List.mem_cons.mp member with rfl | later
      · exact single
      · exact ih later

/-- A text without a newline is no ended piece, but the rest, by induction on it. -/
theorem endedPieces_of_not_mem {text : List Char} (single : '\n' ∉ text)
    : endedPieces text = ([], text) := by
  induction text with
  | nil => rfl
  | cons c rest ih =>
      have other : c ≠ '\n' := Ne.symm (List.ne_of_not_mem_cons single)
      rw [endedPieces, ih (List.not_mem_of_not_mem_cons single)]
      simp [other]

/-- What is before the first newline is the first ended piece, by induction on it. -/
theorem endedPieces_append {line : List Char} (single : '\n' ∉ line) (rest : List Char)
    : endedPieces (line ++ '\n' :: rest)
      = (line :: (endedPieces rest).1, (endedPieces rest).2) := by
  induction line with
  | nil => rfl
  | cons c line ih =>
      have other : c ≠ '\n' := Ne.symm (List.ne_of_not_mem_cons single)
      rw [List.cons_append, endedPieces, ih (List.not_mem_of_not_mem_cons single)]
      simp [other]

/-- What is before the first newline is the first line, without a carriage return at its end. -/
theorem lines_append {line : List Char} (single : '\n' ∉ line) (rest : List Char)
    : lines (line ++ '\n' :: rest) = dropReturn line :: lines rest := by
  simp only [lines, endedPieces_append single, List.map_cons, List.cons_append]

/-- The lines of a text are what is read line by line, by induction on how long it is: a text with a
newline is a first line and a shorter text.
-/
theorem hasLines_lines (text : List Char)
    : HasLines text (lines text) := by
  induction h : text.length using Nat.strongRecOn generalizing text with
  | ind n ih =>
      subst h
      by_cases broken : '\n' ∈ text
      · obtain ⟨line, rest, rfl, single⟩ := List.eq_append_cons_of_mem broken
        have behind := ih rest.length (by simp; omega) rest rfl
        rw [lines_append single]
        by_cases returned : line.getLast? = some '\r'
        · obtain ⟨init, rfl⟩ := List.getLast?_eq_some_iff.mp returned
          rw [dropReturn_append, List.append_assoc]
          exact .returned (fun member => single (List.mem_append_left _ member)) behind
        · rw [dropReturn, if_neg returned]
          exact .ended single returned behind
      · have whole : lines text = if text = [] then [] else [text] := by
          simp only [lines, endedPieces_of_not_mem broken, List.map_nil, List.nil_append]
        rw [whole]
        split
        · next empty => exact empty ▸ .nil
        · next nonempty => exact .unended nonempty broken

end Text

end Dialogue
