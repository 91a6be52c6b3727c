import Dialogue.Proofs.Text.Quoting
import Dialogue.Session.Verdict
import Std.Data.String.ToInt

/-!
The text of a verdict tells the verdict. It names the step; what it says then begins with a letter
that tells what happened there; and the texts in it are quoted, so that each is told together with
its end, whatever it is. A cause is not quoted, but stands last.
-/

namespace Dialogue

/-- The name of a stream tells the stream and where the name ends. -/
theorem Stream.name_append_inj {stream other : Stream} {rest others : List Char}
    (same : stream.name.toList ++ rest = other.name.toList ++ others)
    : stream = other ∧ rest = others := by
  cases stream <;> cases other <;> simp_all [Stream.name]

namespace Verdict

-----------------------------------------------------------------------------------------
-- What is said of a step
-----------------------------------------------------------------------------------------

/-- Two texts below each other, each quoted on a line of its own. -/
def texts (label expected other : String) : List Char :=
  '\n' :: ("expected: ".toList ++ (Text.quote expected.toList
    ++ '\n' :: (label.toList ++ Text.quote other.toList)))

/-- The step that a verdict names, and what its text says of the step. -/
inductive Tells : Verdict → Nat → List Char → Prop
  | mismatch (number : Nat) (stream : Stream) (expected actual : String)
    : Tells (.mismatch number stream expected actual) number
        (stream.name.toList ++ (" mismatch".toList ++ texts "actual:   " expected actual))
  | noOutput (number : Nat) (stream : Stream)
    : Tells (.noOutput number stream) number
        ("expected output on ".toList ++ (stream.name.toList ++ ", stream closed".toList))
  | timeout (number : Nat) (stream : Stream) (expected received : String)
    : Tells (.timeout number stream expected received) number
        ("timed out waiting for ".toList
          ++ (stream.name.toList ++ texts "received: " expected received))
  | broken (number : Nat) (cause : String)
    : Tells (.broken number cause) number ("process error: ".toList ++ cause.toList)

/-- A verdict is passed, or it says something of a step. -/
theorem passed_or_tells (v : Verdict)
    : (∃ code, v = .passed code) ∨ ∃ number said, Tells v number said := by
  cases v with
  | passed code => exact .inl ⟨code, rfl⟩
  | mismatch | noOutput | timeout | broken => exact .inr ⟨_, _, by constructor⟩

/-- The text of a verdict that is not passed is the step and what is said of it, by cases on the
verdict.
-/
theorem Tells.toList_text {v : Verdict} {number : Nat} {said : List Char}
    (tells : Tells v number said)
    : v.text.toList
      = "step ".toList ++ (Nat.toDigits 10 number ++ ':' :: ' ' :: said) := by
  have digits : (toString number).toList = Nat.toDigits 10 number := by
    rw [Nat.toString_eq_ofList_toDigits, String.toList_ofList]
  cases tells with
  | mismatch _ stream expected actual =>
      have whole
          : (Verdict.mismatch number stream expected actual).text
            = "step " ++ toString number ++ ": " ++ stream.name ++ " mismatch\nexpected: "
              ++ quoted expected ++ "\nactual:   " ++ quoted actual :=
        rfl
      rw [whole]
      simp only [String.toList_append, List.append_assoc, digits, quoted, String.toList_ofList]
      rfl
  | noOutput _ stream =>
      have whole
          : (Verdict.noOutput number stream).text
            = "step " ++ toString number ++ ": expected output on " ++ stream.name
              ++ ", stream closed" :=
        rfl
      rw [whole]
      simp only [String.toList_append, List.append_assoc, digits]
      rfl
  | timeout _ stream expected received =>
      have whole
          : (Verdict.timeout number stream expected received).text
            = "step " ++ toString number ++ ": timed out waiting for " ++ stream.name
              ++ "\nexpected: " ++ quoted expected ++ "\n" ++ ("received: " ++ quoted received) :=
        rfl
      rw [whole]
      simp only [String.toList_append, List.append_assoc, digits, quoted, String.toList_ofList]
      rfl
  | broken _ cause =>
      have whole
          : (Verdict.broken number cause).text
            = "step " ++ toString number ++ ": process error: " ++ cause :=
        rfl
      rw [whole]
      simp only [String.toList_append, List.append_assoc, digits]
      rfl

/-- Two texts below each other can be told apart, since each is quoted. -/
theorem texts_inj {label expected other expected' other' : String}
    (same : texts label expected other = texts label expected' other')
    : expected = expected' ∧ other = other' := by
  have behind := List.append_cancel_left (List.cons_eq_cons.mp same).2
  obtain ⟨first, behind⟩ := Text.quote_append_inj.mp behind
  have behind := List.append_cancel_left (List.cons_eq_cons.mp behind).2
  exact ⟨String.toList_inj.mp first, String.toList_inj.mp (Text.quote_injective behind)⟩

/-- The letter with which it is told what happened: at a step, or that the scenario passed. -/
def initial : Verdict → Char
  | .passed _ | .broken .. => 'p'
  | .mismatch .. => 's'
  | .noOutput .. => 'e'
  | .timeout .. => 't'

/-- What is said of a step begins with the letter of the verdict. -/
theorem Tells.head?_eq {v : Verdict} {number : Nat} {said : List Char}
    (tells : Tells v number said)
    : said.head? = some v.initial := by
  cases tells with
  | mismatch _ stream => cases stream <;> rfl
  | noOutput | timeout | broken => rfl

/-- What is said of a step tells what happened there: its letter tells the kind of verdict, and what
follows the stream and the texts.
-/
theorem Tells.unique {v w : Verdict} {number : Nat} {said : List Char}
    (left : Tells v number said) (right : Tells w number said)
    : v = w := by
  have kinds : v.initial = w.initial := Option.some.inj (left.head?_eq.symm.trans right.head?_eq)
  generalize same : said = said' at right
  cases left with
  | mismatch =>
      cases right with
      | mismatch =>
          obtain ⟨rfl, behind⟩ := Stream.name_append_inj same
          obtain ⟨rfl, rfl⟩ := texts_inj (List.append_cancel_left behind)
          rfl
      | noOutput | timeout | broken => exact absurd kinds (by simp [initial])
  | noOutput =>
      cases right with
      | noOutput =>
          obtain ⟨rfl, -⟩ := Stream.name_append_inj (List.append_cancel_left same)
          rfl
      | mismatch | timeout | broken => exact absurd kinds (by simp [initial])
  | timeout =>
      cases right with
      | timeout =>
          obtain ⟨rfl, behind⟩ := Stream.name_append_inj (List.append_cancel_left same)
          obtain ⟨rfl, rfl⟩ := texts_inj behind
          rfl
      | mismatch | noOutput | broken => exact absurd kinds (by simp [initial])
  | broken =>
      cases right with
      | broken =>
          obtain rfl := String.toList_inj.mp (List.append_cancel_left same)
          rfl
      | mismatch | noOutput | timeout => exact absurd kinds (by simp [initial])

-----------------------------------------------------------------------------------------
-- Texts of verdicts
-----------------------------------------------------------------------------------------

/-- What the text of a passed verdict adds for an exit code. -/
def exitNote (code : Option Int) : List Char :=
  code.elim [] fun n => " (exit code ".toList ++ ((toString n).toList ++ [')'])

/-- The text of a passed verdict is the word and what is added for the exit code. -/
theorem toList_passed_text (code : Option Int)
    : (Verdict.passed code).text.toList = "passed".toList ++ exitNote code := by
  cases code with
  | none => exact (List.append_nil _).symm
  | some n =>
      have whole
          : (Verdict.passed (some n)).text = "passed (exit code " ++ toString n ++ ")" :=
        rfl
      rw [whole]
      simp only [String.toList_append, List.append_assoc]
      rfl

/-- What is added for an exit code tells it. -/
theorem exitNote_injective
    : Function.Injective exitNote := by
  intro code other same
  cases code with
  | none =>
      cases other with
      | none => rfl
      | some n => cases same
  | some m =>
      cases other with
      | none => cases same
      | some n =>
          obtain ⟨digits, -⟩ := List.append_inj' (List.append_cancel_left same) rfl
          rw [Int.repr_inj.mp (String.toList_inj.mp digits)]

/-- The text of a verdict tells the verdict. Witness: the step ends at the first colon, and what is
said of it tells the rest.
-/
theorem text_injective
    : Function.Injective text := by
  intro v w same
  have colon := Text.not_mem_toDigits_ten (c := ':') (by decide)
  have lists := congrArg String.toList same
  rcases v.passed_or_tells with ⟨code, rfl⟩ | ⟨number, said, tells⟩
  · rw [toList_passed_text] at lists
    rcases w.passed_or_tells with ⟨other, rfl⟩ | ⟨number, said, tells⟩
    · rw [toList_passed_text] at lists
      rw [exitNote_injective (List.append_cancel_left lists)]
    · rw [tells.toList_text] at lists
      cases lists
  · rw [tells.toList_text] at lists
    rcases w.passed_or_tells with ⟨code, rfl⟩ | ⟨number', said', tells'⟩
    · rw [toList_passed_text] at lists
      cases lists
    · rw [tells'.toList_text] at lists
      obtain ⟨digits, behind⟩ :=
        append_separator_inj (colon number) (colon number') (List.append_cancel_left lists)
      obtain rfl := Text.toDigits_ten_injective digits
      obtain rfl := (List.cons_eq_cons.mp behind).2
      exact tells.unique tells'

/-- Two texts below a heading make three lines, whatever they are. -/
theorem splitOn_texts {heading : List Char} (single : '\n' ∉ heading) {label : String}
    (single' : '\n' ∉ label.toList) (expected other : String)
    : (heading ++ texts label expected other).splitOn '\n'
      = [heading, ("expected: " ++ quoted expected).toList,
          (label ++ quoted other).toList] := by
  have first : '\n' ∉ "expected: ".toList ++ Text.quote expected.toList := by
    simp [Text.newline_not_mem_quote]
  have second : '\n' ∉ label.toList ++ Text.quote other.toList := by
    simp [single', Text.newline_not_mem_quote]
  unfold texts
  rw [List.splitOn_append_cons_self_of_not_mem single, ← List.append_assoc,
    List.splitOn_append_cons_self_of_not_mem first, List.splitOn_eq_singleton second]
  simp only [quoted, String.toList_append, String.toList_ofList]

/-- The first line of what is said of a step, piece by piece. -/
theorem toList_heading (number : Nat) (happened : String)
    : ("step " ++ toString number ++ ": " ++ happened).toList
      = "step ".toList ++ (Nat.toDigits 10 number ++ ':' :: ' ' :: happened.toList) := by
  simp only [String.toList_append, List.append_assoc, Nat.toString_eq_ofList_toDigits,
    String.toList_ofList]
  rfl

/-- What is said of a step on one line stays on one line behind its number. -/
theorem newline_not_mem_heading (number : Nat) {happened : String}
    (single : '\n' ∉ happened.toList)
    : '\n' ∉ ("step " ++ toString number ++ ": " ++ happened).toList := by
  rw [toList_heading]
  have digits := Text.not_mem_toDigits_ten (c := '\n') (by decide) number
  simp [single, digits]

/-- The text of a verdict that shows two texts has three lines, whatever the texts are. -/
theorem Tells.splitOn_text {v : Verdict} {number : Nat} {said : List Char}
    {happened label expected other : String} (tells : Tells v number said)
    (shows : said = happened.toList ++ texts label expected other)
    (single : '\n' ∉ happened.toList) (single' : '\n' ∉ label.toList)
    : v.text.toList.splitOn '\n'
      = [("step " ++ toString number ++ ": " ++ happened).toList,
          ("expected: " ++ quoted expected).toList, (label ++ quoted other).toList] := by
  have whole
      : v.text.toList
        = ("step " ++ toString number ++ ": " ++ happened).toList
          ++ texts label expected other := by
    rw [tells.toList_text, shows, toList_heading]
    simp only [List.append_assoc, List.cons_append]
  rw [whole, splitOn_texts (newline_not_mem_heading number single) single']

end Verdict

/-- Verdicts with one text are the same verdict: the text of a verdict tells the kind of verdict,
the step, the stream, the exit code and every text in it. One that shows two texts, whatever they
are, shows them on two lines of their own below its first.
-/
theorem verdict_told_by_text
    : (∀ v w : Verdict, v.text = w.text ↔ v = w)
      ∧ ∀ (number : Nat) (stream : Stream) (expected other : String),
          (Verdict.mismatch number stream expected other).text.toList.splitOn '\n'
              = [s!"step {number}: {stream.name} mismatch".toList,
                  s!"expected: {Verdict.quoted expected}".toList,
                  s!"actual:   {Verdict.quoted other}".toList]
            ∧ (Verdict.timeout number stream expected other).text.toList.splitOn '\n'
              = [s!"step {number}: timed out waiting for {stream.name}".toList,
                  s!"expected: {Verdict.quoted expected}".toList,
                  s!"received: {Verdict.quoted other}".toList] := by
  refine ⟨fun v w => ⟨fun same => Verdict.text_injective same, congrArg Verdict.text⟩, ?_⟩
  intro number stream expected other
  have mismatch : '\n' ∉ (stream.name ++ " mismatch").toList := by cases stream <;> decide
  have timeout : '\n' ∉ ("timed out waiting for " ++ stream.name).toList := by
    cases stream <;> decide
  constructor
  · have lines :=
      (Verdict.Tells.mismatch number stream expected other).splitOn_text
        (by rw [String.toList_append, List.append_assoc]) mismatch (by decide)
    rw [← String.append_assoc] at lines
    exact lines
  · have lines :=
      (Verdict.Tells.timeout number stream expected other).splitOn_text
        (by rw [String.toList_append, List.append_assoc]) timeout (by decide)
    have joined : ": " ++ "timed out waiting for " = ": timed out waiting for " := rfl
    rw [← String.append_assoc, @String.append_assoc ("step " ++ toString number), joined] at lines
    exact lines

/-- A text that imitates the line below it stays on its own line. -/
example
    : (Verdict.mismatch 1 .stdout "a\"\nactual:   \"b" "c").text
      = "step 1: stdout mismatch\nexpected: \"a\\\"\\nactual:   \\\"b\"\nactual:   \"c\"" := by
  decide

end Dialogue
