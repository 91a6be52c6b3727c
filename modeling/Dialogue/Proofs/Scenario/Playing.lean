import Dialogue.Proofs.Play.Outcome
import Dialogue.Proofs.Scenario.Grouping

/-!
From the text of a script to the verdict. Where no line is a directive, a script that was read and
is played with a peer that delivers passes exactly if its output lines begin what comes on stdout;
how they are spread over steps, and what comes on stderr, makes no difference.
-/

namespace Dialogue

-----------------------------------------------------------------------------------------
-- What a script sends and expects
-----------------------------------------------------------------------------------------

namespace Script

/-- No line is a directive. -/
def WithoutDirectives (lines : List (List Char)) : Prop :=
  ∀ line ∈ lines,
    begins "<e" line = false ∧ begins "<r" line = false ∧ begins "<l" line = false

instance (lines : List (List Char)) : Decidable (WithoutDirectives lines) :=
  inferInstanceAs (Decidable (∀ line ∈ lines, _))

/-- The inputs of a script: what its input lines say, each with a newline. -/
def inputs (lines : List (List Char)) : List String :=
  (lines.filterMap (behind? "> ")).map Draft.withNewline

/-- The output lines of a script. -/
def outputs (lines : List (List Char)) : List (List Char) :=
  lines.filter isOutput

variable {lines : List (List Char)}

/-- A script without directives has no reserved line. -/
theorem WithoutDirectives.unreserved (plain : WithoutDirectives lines)
    : Unreserved lines :=
  fun line member => (plain line member).2

/-- A script without directives has no block with an error mark. -/
theorem WithoutDirectives.onStderr_eq_false (plain : WithoutDirectives lines) {block : Block}
    (member : block ∈ blocks lines)
    : block.onStderr = false := by
  refine List.any_eq_false.mpr ?_
  intro line inside
  have significant : line ∈ lines.filter isSignificant :=
    flatten_blocks lines ▸ List.mem_flatten_of_mem member inside
  rw [(plain line (List.mem_filter.mp significant).1).1]
  exact Bool.false_ne_true

/-- An output line is significant. -/
theorem isSignificant_of_isOutput {line : List Char} (plain : isOutput line = true)
    : isSignificant line = true := by
  have argument : begins "$$ " line = false := begins_of_isOutput plain (by decide)
  simp [isSignificant, argument, (isOutput_iff.mp plain).1]

/-- The output lines of a script are those of its blocks. -/
theorem filter_isOutput_flatten_blocks (lines : List (List Char))
    : (blocks lines).flatten.filter isOutput = outputs lines := by
  rw [flatten_blocks, List.filter_filter, outputs]
  refine List.filter_congr fun line _ => ?_
  cases plain : isOutput line with
  | false => rfl
  | true => exact isSignificant_of_isOutput plain

/-- The input lines of a script are those of its blocks. -/
theorem filterMap_input_flatten_blocks (lines : List (List Char))
    : ((blocks lines).flatten.filterMap (behind? "> ")).map Draft.withNewline = inputs lines := by
  rw [flatten_blocks, List.filterMap_filter, inputs]
  congr 1
  refine List.filterMap_congr fun line _ => ?_
  cases input : behind? "> " line with
  | none => exact ite_self none
  | some text =>
      have eq := List.isPrefixOf?_eq_some_iff_append_eq.mp input
      rw [← eq]
      rfl

namespace Block

/-- The step of a block without an error mark expects the block's output lines on stdout. -/
theorem textOn_step {block : Block} (quiet : block.onStderr = false)
    : block.step.textOn .stdout
      = Text.encode ((block.filter isOutput).flatMap (· ++ ['\n'])) := by
  cases some : block.any isOutput with
  | true =>
      simp [Step.textOn, Step.expectation, step, quiet, output, some, Text.octets, ended]
  | false =>
      have none : block.filter isOutput = [] := by simpa using some
      simp [Step.textOn, Step.expectation, step, quiet, output, some, none]

/-- Blocks without error marks expect their output lines on stdout, in order. -/
theorem expectedOn_stdout {blocks : List Block}
    (quiet : ∀ block ∈ blocks, block.onStderr = false)
    : expectedOn .stdout ((blocks.filter isStep).map step)
      = Text.encode ((blocks.flatten.filter isOutput).flatMap (· ++ ['\n'])) := by
  induction blocks with
  | nil => rfl
  | cons block blocks ih =>
      rw [List.forall_mem_cons] at quiet
      rw [List.flatten_cons, List.filter_append, List.flatMap_append, Text.encode_append,
        ← ih quiet.2]
      cases more : block.isStep with
      | true =>
          rw [List.filter_cons_of_pos more, List.map_cons, ← textOn_step quiet.1]
          rfl
      | false =>
          rw [List.filter_cons_of_neg (Bool.eq_false_iff.mp more), (lines_of_not_isStep more).1]
          rfl

/-- Blocks send their inputs, in order. -/
theorem filterMap_input_steps {blocks : List Block}
    (chains : ∀ block ∈ blocks, block.IsChain fun before line => joins before line)
    : ((blocks.filter isStep).map step).filterMap Step.input
      = (blocks.flatten.filterMap (behind? "> ")).map Draft.withNewline := by
  induction blocks with
  | nil => rfl
  | cons block blocks ih =>
      rw [List.forall_mem_cons] at chains
      rw [List.flatten_cons, List.filterMap_append, List.map_append, ← ih chains.2]
      cases more : block.isStep with
      | true =>
          rw [List.filter_cons_of_pos more, List.map_cons, List.filterMap_cons,
            filterMap_input chains.1]
          have own : block.step.input
              = (block.findSome? (behind? "> ")).map Draft.withNewline := rfl
          rw [own]
          cases block.findSome? (behind? "> ") <;> rfl
      | false =>
          rw [List.filter_cons_of_neg (Bool.eq_false_iff.mp more), (lines_of_not_isStep more).2]
          rfl

end Block

/-- The steps of a script without directives expect nothing on stderr. -/
theorem WithoutDirectives.onStderr_steps (plain : WithoutDirectives lines)
    : ∀ step ∈ steps lines, step.onStderr = false := by
  refine Step.forall_mem_modifyLast ?_ fun _ quiet => quiet
  intro step member
  obtain ⟨block, kept, rfl⟩ := List.mem_map.mp member
  exact plain.onStderr_eq_false (List.mem_filter.mp kept).1

/-- Steps without error marks expect nothing on stderr. -/
theorem expectedOn_stderr {steps : List Step} (quiet : ∀ step ∈ steps, step.onStderr = false)
    : expectedOn .stderr steps = [] := by
  refine List.flatMap_eq_nil_iff.mpr fun step member => ?_
  unfold Step.textOn Step.expectation
  rw [quiet step member]
  cases step.output <;> rfl

/-- The steps of a script without directives expect its output lines on stdout. -/
theorem WithoutDirectives.expectedOn_steps (plain : WithoutDirectives lines)
    : expectedOn .stdout (steps lines) = Text.octets (ended (outputs lines)) := by
  have closed := Step.map_modifyLast (Step.textOn .stdout) (fun _ => rfl)
    (((blocks lines).filter Block.isStep).map Block.step)
  rw [expectedOn, steps, List.flatMap_def, closed, ← List.flatMap_def]
  refine (Block.expectedOn_stdout fun block => plain.onStderr_eq_false).trans ?_
  rw [filter_isOutput_flatten_blocks, Text.octets, ended, String.toList_ofList]

/-- The steps of a script send its inputs. -/
theorem filterMap_input_steps (lines : List (List Char))
    : (steps lines).filterMap Step.input = inputs lines := by
  have closed := Step.map_modifyLast Step.input (fun _ => rfl)
    (((blocks lines).filter Block.isStep).map Block.step)
  have through (steps : List Step)
      : steps.filterMap Step.input = (steps.map Step.input).filterMap id := by
    rw [List.filterMap_map]
    rfl
  rw [through, steps, closed, ← through]
  refine (Block.filterMap_input_steps fun block => List.isChain_of_mem_splitBy).trans ?_
  exact filterMap_input_flatten_blocks lines

/-- A script without directives has no steps exactly if it has neither input nor output lines. -/
theorem WithoutDirectives.steps_eq_nil_iff (plain : WithoutDirectives lines)
    : steps lines = [] ↔ inputs lines = [] ∧ outputs lines = [] := by
  constructor
  · intro none
    have inputs := filterMap_input_steps lines
    have expected := plain.expectedOn_steps
    rw [none] at inputs expected
    refine ⟨inputs.symm, ?_⟩
    cases outputs : outputs lines with
    | nil => rfl
    | cons line others =>
        simp [outputs, expectedOn, Text.octets, ended, String.utf8EncodeChar] at expected
  · rintro ⟨noInput, noOutput⟩
    rw [← filterMap_input_flatten_blocks, List.map_eq_nil_iff, List.filterMap_eq_nil_iff]
      at noInput
    rw [← filter_isOutput_flatten_blocks, List.filter_eq_nil_iff] at noOutput
    -- A block that is a step has a line beside comments, and an error mark is a directive.
    have idle : (blocks lines).filter Block.isStep = [] := by
      refine List.filter_eq_nil_iff.mpr ?_
      intro block member more
      obtain ⟨line, inside, other⟩ := List.any_eq_true.mp more
      have within := List.mem_flatten_of_mem member inside
      cases plain.unreserved.inBlock member line inside with
      | comment text => cases other
      | input text =>
          exact Option.some_ne_none text ((behind?_append _ text).symm.trans (noInput _ within))
      | errorMark ignored =>
          have quiet := List.any_eq_false.mp (plain.onStderr_eq_false member) _ inside
          exact quiet rfl
      | output plain => exact noOutput line within plain
    rw [steps, idle]
    rfl

/-- The last of the steps of a script closes. -/
theorem closesLast_steps (some : steps lines ≠ [])
    : Step.closesLast (steps lines) = true := by
  rcases List.eq_nil_or_concat' (((blocks lines).filter Block.isStep).map Block.step)
    with none | ⟨before, last, eq⟩
  · exact absurd (by rw [steps, none]; rfl) some
  · rw [steps, eq, List.modifyLast_concat, Step.closesLast, List.getLast?_concat]
    rfl

/-- A script without reserved lines is read, and has its steps. -/
theorem Unreserved.exists_read (name : String) {text : String}
    (unreserved : Unreserved (Script.lines text))
    : ∃ scenario,
        Scenario.read name text = .ok scenario
          ∧ scenario.steps = steps (Script.lines text) := by
  refine ⟨_, Scenario.read_eq_ok_iff.mpr ⟨?_, rfl⟩, ?_⟩
  · rw [Script.linesOf_eq]
    exact unreserved.reserved_not_mem
  · rw [Script.linesOf_eq]
    exact unreserved.finished_eq_steps

/-- No step of a script without directives expects output at will. -/
theorem WithoutDirectives.texts_steps (plain : WithoutDirectives lines)
    : ∀ step ∈ steps lines, step.onStderr = true → step.output ≠ none := by
  intro step member marked
  rw [plain.onStderr_steps step member] at marked
  cases marked

/-- What comes meets the steps of a script without directives exactly if its output lines begin
what comes on stdout: nothing is expected on stderr.
-/
theorem WithoutDirectives.meets_steps_iff (plain : WithoutDirectives lines)
    (total : Stream → Octets)
    : Meets total (steps lines) ↔ Text.octets (ended (outputs lines)) <+: total .stdout := by
  constructor
  · intro meets
    have begins := meets .stdout
    rw [plain.expectedOn_steps] at begins
    exact begins
  · intro begins stream
    cases stream with
    | stdout =>
        rw [plain.expectedOn_steps]
        exact begins
    | stderr =>
        rw [expectedOn_stderr plain.onStderr_steps]
        exact List.nil_prefix

/-- With a peer that delivers, a play of the steps of a script without directives, where they are
satisfied, passes with the code; where there are none it passes without one.
-/
theorem WithoutDirectives.playSteps_eq_passed {σ : Type} [Peer σ] {limit : Option Duration}
    {peer : σ} {code : Option Int} {chunks : Stream → List Octets}
    (plain : WithoutDirectives lines) (delivers : Delivers code chunks peer)
    (satisfied : (Exchange.takeSteps limit 1 ⟨{}, peer⟩ (steps lines)).verdict = none)
    : (playSteps limit (steps lines) ⟨{}, peer⟩).1
      = .passed (if inputs lines = [] ∧ outputs lines = [] then none else code) := by
  rcases eq_or_ne (steps lines) [] with none | some
  · rw [if_pos (plain.steps_eq_nil_iff.mp none), none]
    rfl
  · rw [if_neg (plain.steps_eq_nil_iff.not.mp some)]
    exact (playSteps_drained delivers plain.texts_steps satisfied (closesLast_steps some)).1

end Script

-----------------------------------------------------------------------------------------
-- A script that is played
-----------------------------------------------------------------------------------------

/-- How a script without directives comes out when so much comes on stdout and the program ends
with a code: whether it passes, and what was sent and which code is reported if it does.
-/
structure ScriptOutcome (lines : List (List Char)) (came : Octets) (code : Option Int)
    (sent : List String) (verdict : Verdict) : Prop where
  passes
    : (∃ reported, verdict = .passed reported)
      ↔ Text.octets (Script.ended (Script.outputs lines)) <+: came
  inputs : ∀ {reported}, verdict = .passed reported → sent = Script.inputs lines
  reports
    : ∀ {reported},
        verdict = .passed reported
        → reported
          = if Script.inputs lines = [] ∧ Script.outputs lines = [] then none else code

/-- With a peer that delivers, the steps of a script without directives come out as the script does:
they are satisfied exactly if its output lines begin what comes on stdout.
-/
theorem Script.WithoutDirectives.playSteps_outcome {lines : List (List Char)} {σ : Type} [Peer σ]
    {peer : σ} {code : Option Int} {chunks : Stream → List Octets}
    (plain : WithoutDirectives lines) (limit : Option Duration)
    (delivers : Delivers code chunks peer)
    : ScriptOutcome lines (chunks .stdout).flatten code
        (written (playCalls limit (steps lines) ⟨{}, peer⟩))
        (playSteps limit (steps lines) ⟨{}, peer⟩).1 := by
  have satisfied
      : (Exchange.takeSteps limit 1 ⟨{}, peer⟩ (steps lines)).verdict = none
        ↔ Text.octets (ended (outputs lines)) <+: (chunks .stdout).flatten :=
    (Exchange.satisfied_iff_meets delivers plain.texts_steps).trans (plain.meets_steps_iff _)
  cases came : (Exchange.takeSteps limit 1 ⟨{}, peer⟩ (steps lines)).verdict with
  | none =>
      obtain ⟨passed, sent⟩ := playSteps_of_satisfied delivers came
      refine ⟨iff_of_true passed (satisfied.mp came), fun _ => ?_, fun reports => ?_⟩
      · rw [sent, filterMap_input_steps]
      · rw [plain.playSteps_eq_passed delivers came] at reports
        exact (Verdict.passed.inj reports).symm
  | some verdict =>
      have stopped := (Exchange.firstUnmet_of_stopped delivers plain.texts_steps came).not_passed
      rw [playSteps_of_stopped came]
      refine ⟨iff_of_false stopped ?_, ?_, ?_⟩
      · intro begins
        rw [satisfied.mpr begins] at came
        cases came
      · exact fun passed => absurd ⟨_, passed⟩ stopped
      · exact fun passed => absurd ⟨_, passed⟩ stopped

/-- A text without directives is read as a scenario, and with a peer that delivers this passes
exactly if the output lines of the text begin what comes on stdout.
-/
theorem script_outcome {σ : Type} [Peer σ] (limit : Option Duration) (name text : String)
    (peer : σ) {code : Option Int} {chunks : Stream → List Octets}
    (delivers : Delivers code chunks peer)
    (plain : Script.WithoutDirectives (Script.lines text))
    : ∃ scenario,
        Scenario.read name text = .ok scenario
          ∧ ScriptOutcome (Script.lines text) (chunks .stdout).flatten code
              (written (playCalls limit scenario.steps ⟨{}, peer⟩))
              (playFresh limit scenario peer).1 := by
  obtain ⟨scenario, read, steps⟩ := plain.unreserved.exists_read name
  refine ⟨scenario, read, ?_⟩
  have outcome := plain.playSteps_outcome limit delivers
  rw [← steps] at outcome
  exact outcome

/-- An output line before the first input, a comment with a blank line and an argument behind it,
and lines that end in a carriage return: the script passes with what comes in pieces that part a
line, whatever comes on stderr, and reports the code.
-/
theorem script_outcome_in_pieces
    : let text := "Hi\r\n# ask\r\n\n$$ -v\n> a\r\nA\n# end"
      let pieces : Stream → List Octets
        | .stdout => [[72], [105, 10, 65], [], [10, 66]]
        | .stderr => [[255]]
      let peer : Canned :=
        { stdout := (pieces .stdout).map .chunk, stderr := (pieces .stderr).map .chunk,
          exitCode := some 3 }
      Delivers (some 3) pieces peer
        ∧ Script.WithoutDirectives (Script.lines text)
        ∧ ∃ scenario,
            Scenario.read "pieces" text = .ok scenario
              ∧ (playFresh none scenario peer).1 = .passed (some 3)
              ∧ written (playCalls none scenario.steps ⟨{}, peer⟩) = ["a\n"] := by
  intro text pieces peer
  have holds : peer.Holds (some 3) pieces := {
    queued := by intro stream; cases stream <;> rfl
    ends := rfl
    exits := rfl
    takes := rfl
    waits := rfl
  }
  have plain : Script.WithoutDirectives (Script.lines text) := by decide
  refine ⟨holds.delivers, plain, ?_⟩
  obtain ⟨scenario, read, outcome⟩ := script_outcome none "pieces" text peer holds.delivers plain
  have begins
      : Text.octets (Script.ended (Script.outputs (Script.lines text)))
        <+: (pieces .stdout).flatten := by
    decide
  obtain ⟨reported, passed⟩ := outcome.passes.mpr begins
  refine ⟨scenario, read, ?_, ?_⟩
  · rw [passed, outcome.reports passed]
    decide
  · rw [outcome.inputs passed]
    decide

end Dialogue
