import Dialogue.Proofs.Scenario.WellFormed

/-!
Writing a scenario as a script. Each step is written by the lines that make it up, and reading the
script gives the scenario back; so the scenarios that can be read are exactly the well-formed ones.
-/

namespace Dialogue

-----------------------------------------------------------------------------------------
-- Lines as they are written
-----------------------------------------------------------------------------------------

/-- A line as it is written: its marker, and what it says behind it. -/
def Line.text : Line → List Char
  | .blank => []
  | .input text => "> ".toList ++ text
  | .errorMark => "<e".toList
  | .comment text => "#".toList ++ text
  | .argument text => "$$ ".toList ++ text
  | .reserved directive => directive.text.toList
  | .output text => text

/-- Lines as a script. Each ends in a carriage return and a newline, since a carriage return of its
own at its end would be dropped otherwise.
-/
def Script.write (lines : List Line) : String :=
  ended (lines.map fun line => line.text ++ ['\r'])

namespace Line

variable {line : Line}

/-- What a legible line says is what its text means. -/
theorem Legible.ofText_text (legible : line.Legible)
    : ofText line.text = line := by
  refine Means.ofText_eq ?_
  cases line with
  | blank => exact .blank
  | input text => exact .input text
  | errorMark => exact .errorMark []
  | comment text =>
      have means := Means.comment text
      rwa [legible.2] at means
  | argument text => exact .argument text
  | reserved directive => simpa [text] using Means.reserved directive []
  | output text => exact .output legible.2

/-- A legible line is written without a newline. -/
theorem Legible.newline_not_mem_text (legible : line.Legible)
    : '\n' ∉ line.text := by
  cases line with
  | blank | errorMark => decide
  | reserved directive => cases directive <;> decide
  | output text => exact legible.1
  | comment text => simpa [Line.text] using legible.1
  | input text | argument text => simpa [Line.text, Line.Legible] using legible

end Line

/-- Legible lines that were written are read back, before an empty last one. -/
theorem Scenario.linesOf_write {lines : List Line} (legible : ∀ line ∈ lines, line.Legible)
    : linesOf (Script.write lines).toList = lines ++ [.blank] := by
  have single
      : ∀ written ∈ lines.map (fun line => line.text ++ ['\r']), '\n' ∉ written := by
    intro written member
    obtain ⟨line, said, rfl⟩ := List.mem_map.mp member
    simpa using (legible line said).newline_not_mem_text
  rw [linesOf, Script.write, Script.ended, String.toList_ofList, Text.pieces_flatMap single,
    List.map_append, List.map_map]
  congr 1
  refine (List.map_congr_left fun line member => ?_).trans (List.map_id lines)
  exact (congrArg Line.ofText (Text.dropReturn_append line.text)).trans
    (legible line member).ofText_text

-----------------------------------------------------------------------------------------
-- Steps as they are written
-----------------------------------------------------------------------------------------

namespace Step

/-- The lines that open a step: its comment and its input. -/
def heading (step : Step) : List Line :=
  step.comment.toList.map (fun text => .comment text.toList)
    ++ step.input.toList.map fun text => .input text.toList.dropLast

/-- The lines of the answer to a step: the mark of an error, and the output. -/
def answer (step : Step) : List Line :=
  (if step.onStderr then [.errorMark] else [])
    ++ step.output.toList.flatMap fun text =>
        (Text.pieces text.toList).dropLast.map .output

/-- The lines that make up a step. -/
def script (step : Step) : List Line :=
  step.heading ++ step.answer

/-- A step before its answer is known. -/
def asked (step : Step) : Step :=
  { comment := step.comment, input := step.input }

/-- A step that does not close. -/
def unclosed (step : Step) : Step :=
  { step with closes := false }

variable {step : Step}

/-- The lines of a text of lines are the lines. -/
theorem pieces_ended {lines : List (List Char)} (single : ∀ line ∈ lines, '\n' ∉ line)
    : (Text.pieces (Script.ended lines).toList).dropLast = lines := by
  rw [Script.ended, String.toList_ofList, Text.pieces_flatMap single, List.dropLast_concat]

/-- A step with legible texts is written in legible lines. -/
theorem Legible.script (legible : step.Legible)
    : ∀ line ∈ step.script, line.Legible := by
  intro line member
  simp only [Step.script, heading, answer, List.mem_append, List.mem_map, List.mem_flatMap,
    Option.mem_toList] at member
  rcases member with (⟨text, comment, rfl⟩ | ⟨text, input, rfl⟩) | mark | ⟨text, output, said⟩
  · exact legible.comment text comment
  · obtain ⟨sent, single, rfl⟩ := legible.input text input
    simpa [Line.Legible, Draft.withNewline] using single
  · split at mark
    · rw [List.mem_singleton.mp mark]
      trivial
    · cases mark
  · obtain ⟨lines, -, plain, rfl⟩ := legible.output text output
    rw [pieces_ended fun line member => (plain line member).1] at said
    obtain ⟨line, member, rfl⟩ := said
    exact plain line member

/-- The heading of a step that opens puts it on the draft, its answer apart. An input joins the
comment of its own step; without one it opens a step, since no comment is waiting.
-/
theorem Legible.foldl_heading (legible : step.Legible) (opens : step.Opens)
    {earlier : List Step} (acted : ∀ latest ∈ earlier.head?, latest.isBareComment = false)
    : step.heading.foldl Line.addTo earlier = step.asked :: earlier := by
  have sent (text : String) (input : step.input = some text)
      : Draft.withNewline text.toList.dropLast = text := by
    obtain ⟨line, -, rfl⟩ := legible.input text input
    simp [Draft.withNewline]
  rw [heading, asked]
  cases comment : step.comment with
  | some remark =>
      cases input : step.input with
      | none => simp [Line.addTo, ofComment]
      | some text =>
          simp [Line.addTo, Draft.addInput, ofComment, isBareComment, sent text input]
  | none =>
      cases input : step.input with
      | none => exact absurd opens (by simp [Opens, comment, input])
      | some text =>
          cases earlier with
          | nil => simp [Line.addTo, Draft.addInput, ofInput, sent text input]
          | cons latest earlier =>
              have more := acted latest rfl
              simp [Line.addTo, Draft.addInput, ofInput, sent text input, more]

/-- Output lines come behind the output of the latest step, by induction on them. -/
theorem foldl_outputs (latest : Step) (earlier : List Step) (text : String)
    (lines : List (List Char))
    : (lines.map Line.output).foldl Line.addTo ({ latest with output := some text } :: earlier)
      = { latest with output := some (text ++ Script.ended lines) } :: earlier := by
  induction lines generalizing text with
  | nil => simp [Script.ended]
  | cons line lines ih =>
      rw [List.map_cons, List.foldl_cons, Line.addTo, Draft.addOutput, Option.getD_some, ih,
        String.append_assoc, ← Script.ended_singleton, ← Script.ended_append,
        List.singleton_append]

/-- The answer of a step completes it, if the step without its answer is the latest. -/
theorem Legible.foldl_answer (legible : step.Legible) (earlier : List Step)
    : step.answer.foldl Line.addTo (step.asked :: earlier) = step.unclosed :: earlier := by
  have marked
      : (if step.onStderr then [Line.errorMark] else []).foldl Line.addTo
          (step.asked :: earlier)
        = { step.asked with onStderr := step.onStderr } :: earlier := by
    cases mark : step.onStderr <;> rfl
  rw [answer, List.foldl_append, marked, unclosed]
  cases output : step.output with
  | none => simp [asked]
  | some text =>
      obtain ⟨lines, some, plain, rfl⟩ := legible.output text output
      rw [Option.toList_some, List.flatMap_singleton,
        pieces_ended fun line member => (plain line member).1]
      cases lines with
      | nil => exact absurd rfl some
      | cons line lines =>
          rw [List.map_cons, List.foldl_cons, Line.addTo, Draft.addOutput, foldl_outputs,
            ← Script.ended_singleton, String.append_assoc, ← Script.ended_append,
            List.singleton_append]
          simp [asked]

/-- The lines of an answer open a step at the start of a draft as if they joined an empty one. -/
theorem addTo_nil_of_mem_answer {line : Line} (member : line ∈ step.answer)
    : line.addTo [] = line.addTo [{}] := by
  simp only [answer, List.mem_append, List.mem_flatMap, List.mem_map] at member
  rcases member with mark | ⟨_, _, text, _, rfl⟩
  · split at mark
    · rw [List.mem_singleton.mp mark]
      rfl
    · cases mark
  · exact Draft.addOutput_nil text

/-- The lines of a step add no argument, and none of them is reserved. -/
theorem argument?_of_mem_script {line : Line} (member : line ∈ step.script)
    : line.argument? = none ∧ ∀ directive, line ≠ .reserved directive := by
  simp only [script, heading, answer, List.mem_append, List.mem_map, List.mem_flatMap] at member
  rcases member with (⟨text, _, rfl⟩ | ⟨text, _, rfl⟩) | mark | ⟨_, _, text, _, rfl⟩
  · exact ⟨rfl, fun _ => by simp⟩
  · exact ⟨rfl, fun _ => by simp⟩
  · split at mark
    · rw [List.mem_singleton.mp mark]
      exact ⟨rfl, fun _ => by simp⟩
    · cases mark
  · exact ⟨rfl, fun _ => by simp⟩

/-- A step that sends nothing has an answer. -/
theorem WellFormed.answer_ne_nil (wellFormed : step.WellFormed) (quiet : step.input = none)
    : step.answer ≠ [] := by
  rcases wellFormed.acts with input | output | mark
  · exact absurd quiet input
  · obtain ⟨text, output⟩ := Option.ne_none_iff_exists'.mp output
    obtain ⟨lines, some, plain, rfl⟩ := wellFormed.output text output
    rw [answer, output, Option.toList_some, List.flatMap_singleton,
      pieces_ended fun line member => (plain line member).1]
    simp [some]
  · simp [answer, mark]

/-- Reading the lines of a step puts it on the draft. -/
theorem WellFormed.foldl_script (wellFormed : step.WellFormed) {earlier : List Step}
    (opens : earlier ≠ [] → step.Opens)
    (acted : ∀ latest ∈ earlier.head?, latest.isBareComment = false)
    : step.script.foldl Line.addTo earlier = step.unclosed :: earlier := by
  rw [script, List.foldl_append]
  by_cases opened : step.Opens
  · rw [wellFormed.foldl_heading opened acted, wellFormed.foldl_answer]
  -- Only the first step may have no heading, and then its answer opens it.
  · have first : earlier = [] := not_not.mp (mt opens opened)
    simp only [Opens, not_or, not_not] at opened
    have asked : step.asked = {} := by
      rw [Step.asked, opened.1, opened.2]
    have heading : step.heading = [] := by
      rw [Step.heading, opened.1, opened.2]
      rfl
    rw [heading, first, List.foldl_nil, ← wellFormed.foldl_answer, asked]
    cases said : step.answer with
    | nil => exact absurd said (wellFormed.answer_ne_nil opened.2)
    | cons line lines =>
        have same := addTo_nil_of_mem_answer (said ▸ List.mem_cons_self : line ∈ step.answer)
        rw [List.foldl_cons, List.foldl_cons, same]

/-- A well-formed step is more than a comment, whether it closes or not. -/
theorem WellFormed.isBareComment_unclosed (wellFormed : step.WellFormed)
    : step.unclosed.isBareComment = false := by
  rcases wellFormed.acts with input | output | mark
  · simp [isBareComment, unclosed, input]
  · simp [isBareComment, unclosed, output]
  · simp [isBareComment, unclosed, mark]

/-- Reading the lines of steps puts them on the draft, by induction on the steps from the last. -/
theorem foldl_scripts {steps : List Step} (wellFormed : ∀ step ∈ steps, step.WellFormed)
    (opens : steps.Pairwise fun _ step => step.Opens)
    : (steps.flatMap script).foldl Line.addTo [] = (steps.map unclosed).reverse := by
  induction steps using List.reverseRecOn with
  | nil => rfl
  | append_singleton steps last ih =>
      rw [List.forall_mem_append, List.forall_mem_singleton] at wellFormed
      obtain ⟨first, -, across⟩ := List.pairwise_append.mp opens
      rw [List.flatMap_append, List.foldl_append, ih wellFormed.1 first,
        List.flatMap_singleton, wellFormed.2.foldl_script]
      · simp
      · intro others
        have some : steps ≠ [] := by simpa using others
        obtain ⟨step, member⟩ := List.exists_mem_of_ne_nil _ some
        exact across step member last List.mem_cons_self
      · intro latest head
        have member : latest ∈ steps.map unclosed := by
          simpa using List.mem_of_mem_head? head
        obtain ⟨step, taken, rfl⟩ := List.mem_map.mp member
        exact (wellFormed.1 step taken).isBareComment_unclosed

end Step

-----------------------------------------------------------------------------------------
-- Scenarios as they are written
-----------------------------------------------------------------------------------------

namespace Scenario

variable {scenario : Scenario}

/-- The lines that make up a scenario: its arguments, then its steps. -/
def script (scenario : Scenario) : List Line :=
  scenario.arguments.map (fun argument => .argument argument.toList)
    ++ scenario.steps.flatMap Step.script

/-- A well-formed scenario is written in legible lines. -/
theorem WellFormed.script (wellFormed : scenario.WellFormed)
    : ∀ line ∈ scenario.script, line.Legible := by
  refine List.forall_mem_append.mpr ⟨?_, ?_⟩
  · intro line member
    obtain ⟨argument, given, rfl⟩ := List.mem_map.mp member
    exact wellFormed.arguments argument given
  · intro line member
    obtain ⟨step, taken, said⟩ := List.mem_flatMap.mp member
    exact (wellFormed.steps step taken).toLegible.script line said

/-- Finishing the steps of a well-formed scenario, none of which closes yet, gives its steps. -/
theorem WellFormed.finished_unclosed (wellFormed : scenario.WellFormed)
    : Draft.finished (scenario.steps.map Step.unclosed).reverse = scenario.steps := by
  have kept
      : (scenario.steps.map Step.unclosed).filter (fun step => !step.isBareComment)
        = scenario.steps.map Step.unclosed := by
    refine List.filter_eq_self.mpr ?_
    intro step member
    obtain ⟨step, taken, rfl⟩ := List.mem_map.mp member
    rw [(wellFormed.steps step taken).isBareComment_unclosed]
    rfl
  rw [Draft.finished, List.reverse_reverse, kept]
  rcases List.eq_nil_or_concat' scenario.steps with none | ⟨before, last, some⟩
  · rw [none]
    rfl
  -- Finishing closes the last step again, which is all that leaving it unclosed had changed.
  · have closes := wellFormed.closesLast
    have unclosed := wellFormed.closesOnce
    rw [some] at closes unclosed ⊢
    have same : before.map Step.unclosed = before := by
      refine (List.map_congr_left fun step member => ?_).trans (List.map_id before)
      have open' := (List.pairwise_append.mp unclosed).2.2 step member last List.mem_cons_self
      cases step
      exact congrArg _ open'.symm
    have closed : last.unclosed.closing = last := by
      have closes := closes last (by simp)
      cases last
      exact congrArg _ closes.symm
    rw [List.map_append, List.map_singleton, List.modifyLast_concat, same, closed]

/-- A well-formed scenario is read from its own script. -/
theorem WellFormed.read_script (wellFormed : scenario.WellFormed)
    : read scenario.name (Script.write scenario.script) = .ok scenario := by
  rw [read_eq_ok_iff, linesOf_write wellFormed.script]
  have ofSteps
      : ∀ line ∈ scenario.steps.flatMap Step.script,
          line.argument? = none ∧ ∀ directive, line ≠ .reserved directive := by
    intro line member
    obtain ⟨step, -, said⟩ := List.mem_flatMap.mp member
    exact Step.argument?_of_mem_script said
  have arguments
      : (scenario.script ++ [Line.blank]).filterMap Line.argument? = scenario.arguments := by
    have none : (scenario.steps.flatMap Step.script).filterMap Line.argument? = [] :=
      List.filterMap_eq_nil_iff.mpr fun line member => (ofSteps line member).1
    rw [Scenario.script, List.filterMap_append, List.filterMap_append, none, List.filterMap_map]
    simp [Line.argument?, Function.comp_def]
  have steps
      : (scenario.script ++ [Line.blank]).foldl Line.addTo []
        = (scenario.steps.map Step.unclosed).reverse := by
    have apart
        : (scenario.arguments.map fun argument => Line.argument argument.toList).foldl
            Line.addTo []
          = [] := by
      rw [List.foldl_map]
      exact List.foldl_fixed _
    rw [Scenario.script, List.foldl_append, List.foldl_append, apart,
      Step.foldl_scripts wellFormed.steps wellFormed.opens]
    rfl
  refine ⟨?_, ?_⟩
  · intro directive member
    simp only [Scenario.script, List.mem_append, List.mem_map, List.mem_singleton] at member
    rcases member with (⟨_, _, other⟩ | member) | other
    · cases other
    · exact (ofSteps _ member).2 directive rfl
    · cases other
  · rw [arguments, steps, wellFormed.finished_unclosed]

/-- The scenarios that can be read are exactly the well-formed ones. -/
theorem exists_read_iff (name : String) (scenario : Scenario)
    : (∃ text, read name text = .ok scenario) ↔ scenario.name = name ∧ scenario.WellFormed := by
  constructor
  · rintro ⟨text, accepted⟩
    refine ⟨?_, wellFormed_of_read accepted⟩
    obtain ⟨-, rfl⟩ := read_eq_ok_iff.mp accepted
    rfl
  · rintro ⟨rfl, wellFormed⟩
    exact ⟨_, wellFormed.read_script⟩

end Scenario

end Dialogue
