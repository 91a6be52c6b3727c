import Dialogue.Expression.Reading

/-!
Regular expressions as automata. A node of an automaton takes a character, asks something about the
place, or leads on in two ways, of which the first is preferred.
-/

namespace Dialogue

/-- A node of an automaton. The numbers are those of the nodes that it leads to. -/
inductive Automaton.Step
  | take (set : CharSet) (next : Nat)
  | check (spot : Spot) (next : Nat)
  | fork (first second : Nat)
  | opens (group next : Nat)
  /-- A group ends here. The flag says that it need not be there. -/
  | closes (group : Nat) (isOptional : Bool) (next : Nat)
  | again (group next : Nat)
  | accept
deriving Repr, DecidableEq

/-- An automaton. -/
structure Automaton where
  steps : Array Automaton.Step
  start : Nat
  groups : Nat
  /-- Groups that are all there is of another group, with that group. -/
  sameAs : List (Nat × Nat) := []
  /-- It asks again for what groups have matched. -/
  asksAgain : Bool := false

namespace Automaton

/-- Adds one node; the answer is its number. -/
def addStep (steps : Array Step) (step : Step) : Nat × Array Step :=
  (steps.size, steps.push step)

/-- The group that notes what a group matches. -/
def noting (sameAs : List (Nat × Nat)) (group : Nat) : Nat :=
  -- A group is the same as one that was opened before it.
  (List.range group).foldl (fun group _ => (sameAs.lookup group).getD group) group

/-- Adds the nodes of an expression that lead to a given node; the answer is the first of them. -/
def addNodes (sameAs : List (Nat × Nat)) :
    Expression → Nat → Array Step → Nat × Array Step
  | .empty, next, steps => (next, steps)
  | .one set, next, steps => addStep steps (.take set next)
  | .spot spot, next, steps => addStep steps (.check spot next)
  | .again group, next, steps => addStep steps (.again (noting sameAs group) next)
  | .sequence first second, next, steps =>
    let (next, steps) := addNodes sameAs second next steps
    addNodes sameAs first next steps
  | .either first second, next, steps =>
    let (first, steps) := addNodes sameAs first next steps
    let (second, steps) := addNodes sameAs second next steps
    addStep steps (.fork first second)
  | .many inner, next, steps =>
    -- The node that leads back is there before the inner ones, which lead to it.
    let (back, steps) := addStep steps .accept
    let (first, steps) := addNodes sameAs inner back steps
    (back, steps.setIfInBounds back (.fork first next))
  | .group number isOptional inner, next, steps =>
    let (next, steps) := addStep steps (.closes number isOptional next)
    let (next, steps) := addNodes sameAs inner next steps
    addStep steps (.opens number next)

/-- The automaton of an expression. -/
def ofExpression (e : GroupedExpression) : Automaton :=
  let (start, steps) := addNodes e.sameAs e.expression 0 #[.accept]
  { steps, start, groups := e.groups, sameAs := e.sameAs, asksAgain := e.expression.asksAgain }

/-- A node. Where there is none, nothing is matched. -/
def step (a : Automaton) (node : Nat) : Step :=
  a.steps[node]?.getD (.take { ranges := [] } node)

end Automaton

end Dialogue
