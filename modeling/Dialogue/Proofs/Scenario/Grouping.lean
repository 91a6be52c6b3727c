import Dialogue.Proofs.Scenario.Drafting
import Mathlib.Data.List.SplitBy

/-!
The grouping of a script's lines into steps. A script falls into blocks, which only neighbouring
lines decide, and each block is one step; the draft that is built line by line comes to the same
steps, though what it looks at is the latest step as it stands.
-/

namespace Dialogue

-----------------------------------------------------------------------------------------
-- Blocks of lines
-----------------------------------------------------------------------------------------

namespace Script

/-- Whether a line counts for the grouping: it is not empty, and it is no argument. -/
def isSignificant (line : List Char) : Bool :=
  !line.isEmpty && !begins "$$ " line

/-- Whether a significant line joins the block of the one just before it. A comment never does, an
input does if that one is a comment, and any other line always does.
-/
def joins (before line : List Char) : Bool :=
  if begins "#" line then false
  else if begins "> " line then begins "#" before
  else true

/-- A block: the lines of one step. -/
abbrev Block := List (List Char)

/-- The blocks of a script: its significant lines, parted before each that does not join the one
just before it.
-/
def blocks (lines : List (List Char)) : List Block :=
  (lines.filter isSignificant).splitBy joins

namespace Block

/-- The comment of a block: what its comment line says, trimmed. -/
def comment (block : Block) : Option String :=
  (block.findSome? (behind? "#")).map fun text => String.ofList (Text.trim text)

/-- The input of a block: what its input line says, with a newline. -/
def input (block : Block) : Option String :=
  (block.findSome? (behind? "> ")).map Draft.withNewline

/-- The output of a block: all its output lines, each with a newline; none if it has none. -/
def output (block : Block) : Option String :=
  if block.any isOutput then some (ended (block.filter isOutput)) else none

/-- Whether a block has an error mark. What follows the mark is ignored. -/
def onStderr (block : Block) : Bool :=
  block.any (begins "<e")

/-- The step that a block is, before it is known whether it closes. -/
def step (block : Block) : Step :=
  {
    comment := block.comment
    input := block.input
    output := block.output
    onStderr := block.onStderr
  }

/-- Whether a block is a step at all: it has a line that is no comment. -/
def isStep (block : Block) : Bool :=
  block.any fun line => !begins "#" line

end Block

/-- The arguments of a script: what its argument lines say, in order. -/
def arguments (lines : List (List Char)) : List String :=
  (lines.filterMap (behind? "$$ ")).map String.ofList

/-- The steps of a script: those of its blocks that are steps, in order, the last of them closing.
-/
def steps (lines : List (List Char)) : List Step :=
  (((blocks lines).filter Block.isStep).map Block.step).modifyLast Step.closing

-----------------------------------------------------------------------------------------
-- Lines of blocks
-----------------------------------------------------------------------------------------

/-- A line of a block, by its marker. -/
inductive InBlock : List Char → Prop
  | comment (text : List Char) : InBlock ("#".toList ++ text)
  | input (text : List Char) : InBlock ("> ".toList ++ text)
  | errorMark (ignored : List Char) : InBlock ("<e".toList ++ ignored)
  | output {line : List Char} (plain : isOutput line = true) : InBlock line

/-- A significant line that is not reserved stands in a block. -/
theorem inBlock_of_isSignificant {line : List Char} (significant : isSignificant line = true)
    (unreserved : begins "<r" line = false ∧ begins "<l" line = false)
    : InBlock line := by
  have means := Line.means_ofText line
  generalize Line.ofText line = said at means
  cases means with
  | blank => cases significant
  | input text => exact .input text
  | errorMark ignored => exact .errorMark ignored
  | comment text => exact .comment text
  | argument text => cases significant
  | reserved directive ignored =>
      cases directive
      · exact absurd unreserved.1 (by simp [begins, Directive.text])
      · exact absurd unreserved.2 (by simp [begins, Directive.text])
  | output plain => exact .output plain

/-- Output begins with no marker. -/
theorem begins_of_isOutput {line : List Char} (plain : isOutput line = true) {marker : String}
    (known : marker ∈ markers)
    : begins marker line = false :=
  begins_eq_false_iff.mpr ((isOutput_iff.mp plain).2 marker known)

/-- Output is no other line of a block. -/
theorem plain_of_isOutput {line : List Char} (plain : isOutput line = true)
    : begins "#" line = false ∧ begins "> " line = false ∧ begins "<e" line = false :=
  ⟨begins_of_isOutput plain (by decide), begins_of_isOutput plain (by decide),
    begins_of_isOutput plain (by decide)⟩

/-- There is nothing behind a marker with which a line does not begin. -/
theorem behind?_eq_none {marker : String} {line : List Char} (apart : begins marker line = false)
    : behind? marker line = none := by
  rw [behind?, ← Option.not_isSome_iff_eq_none, List.isSome_isPrefixOf?_eq_isPrefixOf,
    Bool.not_eq_true]
  exact apart

/-- What is behind a marker is the rest of the line. -/
theorem behind?_append (marker : String) (rest : List Char)
    : behind? marker (marker.toList ++ rest) = some rest :=
  List.isPrefixOf?_eq_some_iff_append_eq.mpr rfl

/-- A line that says an argument or nothing leads to no other steps. -/
theorem addTo_of_not_isSignificant {line : List Char} (idle : isSignificant line = false)
    (steps : List Step)
    : (Line.ofText line).addTo steps = steps := by
  have means := Line.means_ofText line
  generalize Line.ofText line = said at means
  cases means with
  | blank | argument | reserved => rfl
  | input | errorMark | comment => cases idle
  | output plain =>
      obtain ⟨filled, -⟩ := isOutput_iff.mp plain
      have argument : begins "$$ " line = false := begins_of_isOutput plain (by decide)
      simp [isSignificant, filled, argument] at idle

-----------------------------------------------------------------------------------------
-- A block grows by a line
-----------------------------------------------------------------------------------------

namespace Block

variable {block : Block} {line : List Char}

/-- A line without the marker of a comment adds none to a block. -/
theorem comment_append (other : begins "#" line = false)
    : comment (block ++ [line]) = block.comment := by
  simp [comment, List.findSome?_append, behind?_eq_none other]

/-- A line without the marker of an input adds none to a block. -/
theorem input_append (other : begins "> " line = false)
    : input (block ++ [line]) = block.input := by
  simp [input, List.findSome?_append, behind?_eq_none other]

/-- An input line gives its input to a block without one. -/
theorem input_append_of_eq_none (none : block.input = none) (text : List Char)
    : input (block ++ ["> ".toList ++ text]) = some (Draft.withNewline text) := by
  rw [input, Option.map_eq_none_iff] at none
  rw [input, List.findSome?_append, none, Option.none_or, List.findSome?_singleton,
    behind?_append, Option.map_some]

/-- A line that is no output adds none to a block. -/
theorem output_append (other : isOutput line = false)
    : output (block ++ [line]) = block.output := by
  simp [output, other]

/-- An output line comes behind the output of a block. -/
theorem output_append_of_isOutput (plain : isOutput line = true)
    : output (block ++ [line])
      = some (block.output.getD "" ++ Draft.withNewline line) := by
  have before : block.output.getD "" = ended (block.filter isOutput) := by
    rw [output]
    split
    · rfl
    · next none =>
        have empty : block.filter isOutput = [] := by simpa using none
        rw [empty]
        rfl
  rw [before, ← ended_singleton, ← ended_append, output, List.any_append, List.filter_append]
  simp [plain]

/-- An error mark is one of a block or of the line behind it. -/
theorem onStderr_append (block : Block) (line : List Char)
    : onStderr (block ++ [line]) = (block.onStderr || begins "<e" line) := by
  simp [onStderr]

/-- A line that opens a block puts the block's step on the draft. Where an input does so, no comment
is the line just before it, so none is waiting.
-/
theorem addTo_opening (inBlock : InBlock line) {earlier : List Step}
    (apart
      : ∀ latest ∈ earlier.head?,
          ∃ before, joins before line = false ∧ latest.isBareComment = begins "#" before)
    : (Line.ofText line).addTo earlier = step [line] :: earlier := by
  cases inBlock with
  | comment text => rfl
  | input text =>
      change Draft.addInput text earlier = step ["> ".toList ++ text] :: earlier
      cases earlier with
      | nil => rfl
      | cons latest earlier =>
          obtain ⟨before, opens, waits⟩ := apart latest rfl
          have acted : latest.isBareComment = false := waits.trans opens
          rw [Draft.addInput, acted]
          rfl
  | errorMark ignored =>
      cases earlier with
      | nil => rfl
      | cons latest earlier =>
          obtain ⟨before, opens, -⟩ := apart latest rfl
          cases opens
  | output plain =>
      obtain ⟨comment, input, mark⟩ := plain_of_isOutput plain
      rw [(Line.Means.output plain).ofText_eq]
      cases earlier with
      | nil =>
          simp [Line.addTo, Draft.addOutput, Step.ofOutput, step, Block.comment, Block.input,
            Block.output, onStderr, behind?_eq_none comment, behind?_eq_none input, mark, plain,
            ended_singleton]
      | cons latest earlier =>
          obtain ⟨before, opens, -⟩ := apart latest rfl
          simp [joins, comment, input] at opens

/-- A line that joins a block adds to the block's step. Where an input does so, the comment just
before it is all that there is.
-/
theorem addTo_joining (inBlock : InBlock line) {before : List Char}
    (joined : joins before line = true)
    (waits : (step block).isBareComment = begins "#" before) (earlier : List Step)
    : (Line.ofText line).addTo (step block :: earlier) = step (block ++ [line]) :: earlier := by
  cases inBlock with
  | comment text => cases joined
  | input text =>
      have bare : (step block).isBareComment = true := waits.trans joined
      have none : block.input = none := by
        simp only [Step.isBareComment, step, Bool.and_eq_true] at bare
        exact Option.isNone_iff_eq_none.mp bare.1.1.1.2
      change Draft.addInput text (step block :: earlier) = _
      rw [Draft.addInput, if_pos bare, step, step, comment_append rfl, output_append rfl,
        input_append_of_eq_none none, onStderr_append]
      simp [begins]
  | errorMark ignored =>
      change Draft.addErrorMark (step block :: earlier) = _
      rw [Draft.addErrorMark, step, step, comment_append rfl, input_append rfl,
        output_append rfl, onStderr_append]
      simp [begins]
  | output plain =>
      obtain ⟨comment, input, mark⟩ := plain_of_isOutput plain
      rw [(Line.Means.output plain).ofText_eq, Line.addTo, Draft.addOutput, step, step,
        comment_append comment, input_append input, output_append_of_isOutput plain,
        onStderr_append, mark, Bool.or_false]

-----------------------------------------------------------------------------------------
-- Whole blocks
-----------------------------------------------------------------------------------------

/-- A block that is no step has comments only. -/
theorem exists_of_not_isStep (idle : block.isStep = false)
    : ∀ line ∈ block, ∃ text, line = "#".toList ++ text := by
  intro line member
  have comment : begins "#" line = true := by
    simpa using List.any_eq_false.mp idle line member
  obtain ⟨text, eq⟩ := List.isPrefixOf_iff_prefix.mp comment
  exact ⟨text, eq.symm⟩

/-- A block that is no step has neither input nor output lines. -/
theorem lines_of_not_isStep (idle : block.isStep = false)
    : block.filter isOutput = [] ∧ block.filterMap (behind? "> ") = [] := by
  constructor
  · refine List.filter_eq_nil_iff.mpr ?_
    intro line member
    obtain ⟨text, rfl⟩ := exists_of_not_isStep idle line member
    exact Bool.false_ne_true
  · refine List.filterMap_eq_nil_iff.mpr ?_
    intro line member
    obtain ⟨text, rfl⟩ := exists_of_not_isStep idle line member
    rfl

/-- The step of a block is more than a comment exactly if a line of the block is. -/
theorem isBareComment_step (inBlock : ∀ line ∈ block, InBlock line) (some : block ≠ [])
    : (step block).isBareComment = !block.isStep := by
  cases more : block.isStep with
  | true =>
      obtain ⟨line, member, other⟩ := List.any_eq_true.mp more
      have acts : block.input ≠ none ∨ block.output ≠ none ∨ block.onStderr = true := by
        cases inBlock line member with
        | comment text => cases other
        | input text =>
            refine .inl ?_
            rw [input, Ne, Option.map_eq_none_iff, List.findSome?_eq_none_iff]
            intro absent
            exact Option.some_ne_none text ((behind?_append _ text).symm.trans (absent _ member))
        | errorMark ignored => exact .inr (.inr (List.any_eq_true.mpr ⟨_, member, rfl⟩))
        | output plain =>
            refine .inr (.inl ?_)
            rw [output, if_pos (List.any_eq_true.mpr ⟨_, member, plain⟩)]
            exact Option.some_ne_none _
      rcases acts with input | output | mark
      · simp [Step.isBareComment, step, input]
      · simp [Step.isBareComment, step, output]
      · simp [Step.isBareComment, step, mark]
  | false =>
      have comments := exists_of_not_isStep more
      have comment : block.comment ≠ none := by
        obtain ⟨line, member⟩ := List.exists_mem_of_ne_nil _ some
        obtain ⟨text, rfl⟩ := comments line member
        rw [Block.comment, Ne, Option.map_eq_none_iff, List.findSome?_eq_none_iff]
        intro absent
        exact Option.some_ne_none text ((behind?_append _ text).symm.trans (absent _ member))
      obtain ⟨noOutput, noInput⟩ := lines_of_not_isStep more
      have input : block.input = none := by
        rw [Block.input, Option.map_eq_none_iff, List.findSome?_eq_none_iff]
        exact List.filterMap_eq_nil_iff.mp noInput
      have output : block.output = none := by
        refine if_neg (Bool.eq_false_iff.mp (List.any_eq_false.mpr ?_))
        exact List.filter_eq_nil_iff.mp noOutput
      have quiet : block.onStderr = false := by
        refine List.any_eq_false.mpr ?_
        intro line member
        obtain ⟨text, rfl⟩ := comments line member
        exact Bool.false_ne_true
      simp [Step.isBareComment, step, input, output, quiet,
        Option.isSome_iff_ne_none.mpr comment]

/-- A block is a step exactly if its last line is no comment: a comment joins no block, so where it
stands last it stands alone.
-/
theorem isStep_append {front : Block} {last : List Char}
    (chain : (front ++ [last]).IsChain fun before line => joins before line)
    : isStep (front ++ [last]) = !begins "#" last := by
  cases comment : begins "#" last with
  | false => simp [isStep, comment]
  | true =>
      rcases List.eq_nil_or_concat' front with rfl | ⟨others, before, rfl⟩
      · simp [isStep, comment]
      · have joined := (List.isChain_append.mp chain).2.2 before (by simp) last (by simp)
        simp [joins, comment] at joined

/-- The step of a block is only a comment exactly if the last line of the block is one. -/
theorem isBareComment_append {front : Block} {last : List Char}
    (inBlock : ∀ line ∈ front ++ [last], InBlock line)
    (chain : (front ++ [last]).IsChain fun before line => joins before line)
    : (step (front ++ [last])).isBareComment = begins "#" last := by
  rw [isBareComment_step inBlock (by simp), isStep_append chain, Bool.not_not]

/-- Behind a line that is no comment a block has no input line, by induction on the lines. -/
theorem filterMap_input_eq_nil {first : List Char} {rest : Block}
    (chain : (first :: rest).IsChain fun before line => joins before line)
    (other : begins "#" first = false)
    : rest.filterMap (behind? "> ") = [] := by
  induction rest generalizing first with
  | nil => rfl
  | cons second rest ih =>
      obtain ⟨joined, chain⟩ := List.isChain_cons_cons.mp chain
      rw [joins, other] at joined
      have comment : begins "#" second = false := by
        by_contra comment
        simp [comment] at joined
      have input : begins "> " second = false := by
        by_contra input
        simp [comment, input] at joined
      rw [List.filterMap_cons_none (behind?_eq_none input)]
      exact ih chain comment

/-- A block has at most one input line: its first, or the second behind a comment. -/
theorem filterMap_input
    (chain : block.IsChain fun before line => joins before line)
    : block.filterMap (behind? "> ") = (block.findSome? (behind? "> ")).toList := by
  have only {line : List Char} {rest : Block} (none : rest.filterMap (behind? "> ") = [])
      : (line :: rest).filterMap (behind? "> ")
        = ((line :: rest).findSome? (behind? "> ")).toList := by
    have absent : rest.findSome? (behind? "> ") = .none :=
      List.findSome?_eq_none_iff.mpr (List.filterMap_eq_nil_iff.mp none)
    rw [List.filterMap_cons, List.findSome?_cons, none, absent]
    cases behind? "> " line <;> rfl
  cases block with
  | nil => rfl
  | cons first rest =>
      cases comment : begins "#" first with
      | false => exact only (filterMap_input_eq_nil chain comment)
      | true =>
          obtain ⟨text, rfl⟩ := List.isPrefixOf_iff_prefix.mp comment
          cases rest with
          | nil => rfl
          | cons second rest =>
              obtain ⟨joined, chain⟩ := List.isChain_cons_cons.mp chain
              have other : begins "#" second = false := by
                by_contra comment
                simp [joins, comment] at joined
              have none : behind? "> " ("#".toList ++ text) = .none := rfl
              rw [List.filterMap_cons_none none, List.findSome?_cons, none]
              exact only (filterMap_input_eq_nil chain other)

/-- Reading the lines of a block puts its step on the draft, by induction on them from the last. -/
theorem foldl_block {first : List Char} {rest : Block}
    (inBlock : ∀ line ∈ first :: rest, InBlock line)
    (chain : (first :: rest).IsChain fun before line => joins before line)
    {earlier : List Step}
    (apart
      : ∀ latest ∈ earlier.head?,
          ∃ before, joins before first = false ∧ latest.isBareComment = begins "#" before)
    : (first :: rest).foldl (fun steps line => (Line.ofText line).addTo steps) earlier
      = step (first :: rest) :: earlier := by
  induction rest using List.reverseRecOn with
  | nil => exact addTo_opening (inBlock first List.mem_cons_self) apart
  | append_singleton rest line ih =>
      rw [← List.cons_append] at inBlock chain ⊢
      rw [List.forall_mem_append, List.forall_mem_singleton] at inBlock
      obtain ⟨front, -, joined⟩ := List.isChain_append.mp chain
      rw [List.foldl_append, ih inBlock.1 front]
      obtain ⟨others, before, eq⟩ :=
        (List.eq_nil_or_concat' (first :: rest)).resolve_left (List.cons_ne_nil _ _)
      rw [eq] at inBlock front joined ⊢
      refine addTo_joining inBlock.2 (joined before (by simp) line (by simp)) ?_ earlier
      exact isBareComment_append inBlock.1 front

/-- Reading the lines of blocks puts their steps on the draft, by induction on the blocks from the
last.
-/
theorem foldl_blocks {blocks : List Block}
    (inBlock : ∀ block ∈ blocks, ∀ line ∈ block, InBlock line) (some : [] ∉ blocks)
    (chains : ∀ block ∈ blocks, block.IsChain fun before line => joins before line)
    (apart
      : blocks.IsChain fun block next =>
          ∃ last first, joins (block.getLast last) (next.head first) = false)
    : blocks.flatten.foldl (fun steps line => (Line.ofText line).addTo steps) []
      = (blocks.map step).reverse := by
  induction blocks using List.reverseRecOn with
  | nil => rfl
  | append_singleton blocks block ih =>
      rw [List.forall_mem_append, List.forall_mem_singleton] at inBlock chains
      rw [List.mem_append, not_or, List.mem_singleton] at some
      obtain ⟨front, -, across⟩ := List.isChain_append.mp apart
      rw [List.flatten_append, List.flatten_singleton, List.foldl_append,
        ih inBlock.1 some.1 chains.1 front]
      cases block with
      | nil => exact absurd rfl some.2
      | cons first rest =>
          rw [foldl_block inBlock.2 chains.2]
          · simp
          · intro latest head
            obtain rfl | ⟨others, before, rfl⟩ := List.eq_nil_or_concat' blocks
            · cases head
            -- The latest step is that of the block before, whose last line is just before this one.
            · rw [List.map_append, List.reverse_append] at head
              cases head
              obtain ⟨filled, _, opens⟩ := across before (by simp) (first :: rest) (by simp)
              obtain ⟨lines, last, rfl⟩ := (List.eq_nil_or_concat' before).resolve_left filled
              rw [List.getLast_concat] at opens
              have member : lines ++ [last] ∈ others ++ [lines ++ [last]] := by simp
              exact ⟨last, opens,
                isBareComment_append (inBlock.1 _ member) (chains.1 _ member)⟩

end Block

-----------------------------------------------------------------------------------------
-- Whole scripts
-----------------------------------------------------------------------------------------

/-- No line is reserved. -/
def Unreserved (lines : List (List Char)) : Prop :=
  ∀ line ∈ lines, begins "<r" line = false ∧ begins "<l" line = false

instance (lines : List (List Char)) : Decidable (Unreserved lines) :=
  inferInstanceAs (Decidable (∀ line ∈ lines, _))

variable {lines : List (List Char)}

/-- The blocks of a script hold its significant lines and no others. -/
theorem flatten_blocks (lines : List (List Char))
    : (blocks lines).flatten = lines.filter isSignificant :=
  List.flatten_splitBy _ _

/-- The lines of the blocks of a script are lines of blocks. -/
theorem Unreserved.inBlock (unreserved : Unreserved lines) {block : Block}
    (member : block ∈ blocks lines)
    : ∀ line ∈ block, InBlock line := by
  intro line inside
  have significant : line ∈ lines.filter isSignificant :=
    flatten_blocks lines ▸ List.mem_flatten_of_mem member inside
  obtain ⟨line, significant⟩ := List.mem_filter.mp significant
  exact inBlock_of_isSignificant significant (unreserved _ line)

/-- Reading a script leads to the steps of its blocks. -/
theorem Unreserved.foldl_addTo (unreserved : Unreserved lines)
    : (lines.map Line.ofText).foldl Line.addTo [] = ((blocks lines).map Block.step).reverse := by
  have idle
      : ∀ start,
          lines.foldl (fun steps line => (Line.ofText line).addTo steps) start
          = (lines.filter isSignificant).foldl
              (fun steps line => (Line.ofText line).addTo steps) start := by
    intro start
    rw [List.foldl_filter]
    congr 1
    funext steps line
    cases significant : isSignificant line with
    | true => rfl
    | false => exact addTo_of_not_isSignificant significant steps
  rw [List.foldl_map, idle, ← flatten_blocks]
  exact Block.foldl_blocks (fun _ => unreserved.inBlock) (List.nil_notMem_splitBy _ _)
    (fun _ => List.isChain_of_mem_splitBy) (List.isChain_getLast_head_splitBy _ _)

/-- Reading a script ends with the steps of the script: where the draft drops a comment that no step
took up, there is a block of nothing else.
-/
theorem Unreserved.finished_eq_steps (unreserved : Unreserved lines)
    : Draft.finished ((lines.map Line.ofText).foldl Line.addTo []) = steps lines := by
  rw [unreserved.foldl_addTo, Draft.finished, List.reverse_reverse, List.filter_map, steps]
  congr 2
  refine List.filter_congr fun block member => ?_
  have filled : block ≠ [] := List.ne_nil_of_mem_splitBy member
  rw [Function.comp_apply, Block.isBareComment_step (unreserved.inBlock member) filled,
    Bool.not_not]

/-- The arguments that lines add are those of the script. -/
theorem filterMap_argument? (lines : List (List Char))
    : (lines.map Line.ofText).filterMap Line.argument? = arguments lines := by
  rw [List.filterMap_map, arguments, List.map_filterMap]
  refine List.filterMap_congr fun line _ => ?_
  rw [Function.comp_apply]
  have means := Line.means_ofText line
  generalize Line.ofText line = said at means
  cases means with
  | argument text => rw [behind?_append]; rfl
  | blank | input | errorMark | comment => rfl
  | reserved directive ignored => cases directive <;> rfl
  | output plain => rw [behind?_eq_none (begins_of_isOutput plain (by decide))]; rfl

/-- No line is taken for a reserved directive where none is reserved. -/
theorem Unreserved.reserved_not_mem (unreserved : Unreserved lines) (directive : Directive)
    : .reserved directive ∉ lines.map Line.ofText := by
  intro member
  obtain ⟨line, member, eq⟩ := List.mem_map.mp member
  have means := Line.means_ofText line
  rw [eq] at means
  cases means
  cases directive
  · exact absurd (unreserved _ member).1 (by simp [begins, Directive.text])
  · exact absurd (unreserved _ member).2 (by simp [begins, Directive.text])

end Script

/-- A script without reserved lines is read as its blocks: each that has a line beside comments is
one step, in order, and the last of them closes.
-/
theorem Scenario.read_eq_blocks (name text : String)
    (unreserved : Script.Unreserved (Script.lines text))
    : read name text
      = .ok {
          name
          arguments := Script.arguments (Script.lines text)
          steps := Script.steps (Script.lines text)
        } := by
  rw [read_eq_ok_iff, Script.linesOf_eq]
  refine ⟨unreserved.reserved_not_mem, ?_⟩
  rw [Script.filterMap_argument?, unreserved.finished_eq_steps]

/-- Blank lines and an argument stand between a comment and its input, which makes them one step; a
comment that is marked as an error takes no input up, and the last one is dropped.
-/
theorem Scenario.read_blocks_apart
    : let text := "Hi\n#  ask \r\n\n$$ -v\n> a\r\nA\n<e!\nB\n# x\n<e\n> b\n# end"
      Script.Unreserved (Script.lines text)
        ∧ read "apart" text
          = .ok {
              name := "apart"
              arguments := ["-v"]
              steps := [
                { output := some "Hi\n" },
                {
                  comment := some "ask"
                  input := some "a\n"
                  output := some "A\nB\n"
                  onStderr := true
                },
                { comment := some "x", onStderr := true },
                { input := some "b\n", closes := true }
              ]
            } := by
  intro text
  have unreserved : Script.Unreserved (Script.lines text) := by decide
  refine ⟨unreserved, (read_eq_blocks "apart" text unreserved).trans ?_⟩
  decide +kernel

end Dialogue
