import Dialogue.Expression.Automaton
import Std.Data.HashSet

/-!
Searching a text for what an expression matches: the match that begins first, and of those the
longest. Of the ways in which the expression can match it, the one counts that prefers the first
branch at each fork; it gives what the groups have matched.
-/

namespace Dialogue

/-- What a group has matched: where it was opened, and where it was closed if it has been. -/
abbrev Noted := Option (Nat × Option Nat)

/-- A match in a text. -/
structure Found where
  start : Nat
  stop : Nat
  /-- What the groups have matched, from the first on. -/
  groups : List (Option (Nat × Nat)) := []
deriving Repr

namespace Automaton

/-- A thread of a search: a node, and where the match would begin. -/
abbrev Thread := Nat × Nat

/-- What is reached from some threads without a character. -/
structure Reached where
  /-- The nodes that have been seen. -/
  seen : Array Bool
  /-- The threads that wait for a character, the last one first. -/
  waiting : List (CharSet × Thread) := []
  /-- Where the match begins whose end is reached. -/
  accepted : Option Nat := none

/-- Follows threads as far as they go without a character. The first argument bounds the nodes. -/
def follow (a : Automaton) (subject : Subject) (place : Nat) :
    Nat → Reached → List Thread → Reached
  | 0, reached, _ => reached
  | _, reached, [] => reached
  | bound + 1, reached, (node, start) :: threads =>
    if reached.seen.getD node true then follow a subject place bound reached threads
    else
      let seen := reached.seen.setIfInBounds node true
      let reached := { reached with seen }
      match a.step node with
      | .take set next =>
        let waiting := (set, next, start) :: reached.waiting
        follow a subject place bound { reached with waiting } threads
      | .check spot next =>
        if subject.isSpot spot place then
          follow a subject place bound reached ((next, start) :: threads)
        else follow a subject place bound reached threads
      | .fork first second =>
        follow a subject place bound reached ((first, start) :: (second, start) :: threads)
      | .opens _ next => follow a subject place bound reached ((next, start) :: threads)
      | .closes _ _ next => follow a subject place bound reached ((next, start) :: threads)
      | .again _ _ => follow a subject place bound reached threads
      | .accept =>
        follow a subject place bound
          { reached with accepted := some (reached.accepted.getD start) } threads

/-- Goes on with a search from a place. The threads are in the order of their beginnings. The first
argument bounds the places. -/
def spanFrom (a : Automaton) (subject : Subject) :
    Nat → Nat → List Thread → Option (Nat × Nat) → Option (Nat × Nat)
  | 0, _, _, best => best
  | places + 1, place, threads, best =>
    let threads := if best.isNone then threads ++ [(a.start, place)] else threads
    let bound := 2 * a.steps.size + threads.length + 1
    let start : Reached := { seen := Array.replicate a.steps.size false }
    let reached := a.follow subject place bound start threads
    let best :=
      match reached.accepted with
      | some start => some (start, place)
      | none => best
    match subject.text[place]? with
    | none => best
    | some c =>
      let threads := reached.waiting.reverse.filterMap fun (set, thread) =>
        -- A match that begins later than one that was found does not count.
        if set.contains c && best.all (thread.2 ≤ ·.1) then some thread else none
      if threads.isEmpty && best.isSome then best
      else spanFrom a subject places (place + 1) threads best

/-- Where the first and longest match from a place on begins and ends. -/
def span? (a : Automaton) (subject : Subject) (from' : Nat) : Option (Nat × Nat) :=
  a.spanFrom subject (subject.text.size + 1 - from') from' [] none

/-- Marks the nodes from which marked ones are reached without a character, once. -/
def spread (a : Automaton) (subject : Subject) (place : Nat) (marks : Array Bool) : Array Bool :=
  (List.range a.steps.size).foldl
    (fun marks node =>
      let isMarked (next : Nat) : Bool := marks.getD next false
      let leads :=
        match a.step node with
        | .check spot next => isMarked next && subject.isSpot spot place
        | .fork first second => isMarked first || isMarked second
        | .opens _ next => isMarked next
        | .closes _ _ next => isMarked next
        | _ => false
      if leads then marks.setIfInBounds node true else marks)
    marks

/-- The same until no more nodes are marked. The first argument bounds how often. -/
def spreadAll (a : Automaton) (subject : Subject) (place : Nat) :
    Nat → Array Bool → Array Bool
  | 0, marks => marks
  | bound + 1, marks =>
    let more := a.spread subject place marks
    if more == marks then marks else spreadAll a subject place bound more

/-- For each of so many places before an end the nodes from which the match can reach that end, and
for the end itself; the earliest first. -/
def viable (a : Automaton) (subject : Subject) (stop : Nat) : Nat → List (Array Bool)
  | 0 =>
    let accepting := a.steps.map fun step => step == .accept
    [a.spreadAll subject stop (a.steps.size + 1) accepting]
  | count + 1 =>
    let later := viable a subject stop count
    let place := stop - (count + 1)
    let next := later.headD #[]
    let taking := a.steps.map fun step =>
      match step with
      | .take set target => next.getD target false && subject.after place set.contains
      | _ => false
    a.spreadAll subject place (a.steps.size + 1) taking :: later

/-- A way through an automaton. -/
structure Walk where
  node : Nat
  place : Nat
  /-- What the groups have noted. -/
  noted : List Noted
  /-- What they had noted when a group last matched something. -/
  kept : List Noted

/-- What groups have noted when one of them is closed. -/
def Walk.close (walk : Walk) (group : Nat) (isOptional : Bool) : Walk :=
  match walk.noted.getD group none with
  | some (start, _) =>
    let noted := walk.noted.set group (some (start, some walk.place))
    if start < walk.place then { walk with noted, kept := noted }
    else if isOptional && (walk.kept.getD group none).isSome then { walk with noted := walk.kept }
    else { walk with noted }
  | none => walk

/-- The length of what a group has matched, if the same stands at a place. -/
def Walk.repeats? (walk : Walk) (subject : Subject) (group : Nat) : Option Nat :=
  match walk.noted.getD group none with
  | some (start, some stop) =>
    let isSame := (List.range (stop - start)).all fun n =>
      match subject.text[walk.place + n]?, subject.text[start + n]? with
      | some c, some d => c == d
      | _, _ => false
    if isSame then some (stop - start) else none
  | _ => none

/-- Where walks have been at forks. -/
abbrev Visited := Std.HashSet (Nat × Nat × List Noted × List Noted)

/-- Follows walks, the most preferred first, and finds the one that gets farthest; one that gets to
the limit is not surpassed. Nodes that are not viable at a place are left alone. The first argument
bounds the nodes. -/
def explore (a : Automaton) (subject : Subject) (isViable : Nat → Nat → Bool) (limit : Nat) :
    Nat → List Walk → Visited → Option Walk → Option Walk
  | 0, _, _, best => best
  | _, [], _, best => best
  | bound + 1, walk :: walks, visited, best =>
    let goOn := explore a subject isViable limit bound
    if !isViable walk.place walk.node then goOn walks visited best
    else
      match a.step walk.node with
      | .take set next =>
        if subject.after walk.place set.contains then
          goOn ({ walk with node := next, place := walk.place + 1 } :: walks) visited best
        else goOn walks visited best
      | .check spot next =>
        if subject.isSpot spot walk.place then
          goOn ({ walk with node := next } :: walks) visited best
        else goOn walks visited best
      | .fork first second =>
        let state := (walk.node, walk.place, walk.noted, walk.kept)
        if visited.contains state then goOn walks visited best
        else
          goOn ({ walk with node := first } :: { walk with node := second } :: walks)
            (visited.insert state) best
      | .opens group next =>
        let noted := walk.noted.set group (some (walk.place, none))
        goOn ({ walk with node := next, noted } :: walks) visited best
      | .closes group isOptional next =>
        goOn ({ walk.close group isOptional with node := next } :: walks) visited best
      | .again group next =>
        match walk.repeats? subject group with
        | some length =>
          goOn ({ walk with node := next, place := walk.place + length } :: walks) visited best
        | none => goOn walks visited best
      | .accept =>
        if walk.place = limit then some walk
        else
          let best := if best.any (walk.place ≤ ·.place) then best else some walk
          goOn walks visited best

/-- How many nodes are looked at when a text is searched. -/
def mostNodes : Nat := 100000000

/-- The walk that begins at a place. -/
def begin (a : Automaton) (place : Nat) : Walk :=
  let nothing := List.replicate (a.groups + 1) none
  { node := a.start, place, noted := nothing, kept := nothing }

/-- The match that a walk has made. -/
def found (a : Automaton) (start : Nat) (walk : Walk) : Found :=
  let groupAt (group : Nat) : Option (Nat × Nat) :=
    match walk.noted.getD (noting a.sameAs group) none with
    | some (start, some stop) => some (start, stop)
    | _ => none
  { start, stop := walk.place, groups := (List.range a.groups).map fun n => groupAt (n + 1) }

/-- The first match that begins at one of so many places from a place on. -/
def firstFrom (a : Automaton) (subject : Subject) : Nat → Nat → Option Found
  | 0, _ => none
  | places + 1, place =>
    let any (_ _ : Nat) : Bool := true
    match a.explore subject any subject.text.size mostNodes [a.begin place] {} none with
    | some walk => some (a.found place walk)
    | none => firstFrom a subject places (place + 1)

/-- The first and longest match from a place on. The flag says that what its groups have matched is
wanted. -/
def search (a : Automaton) (subject : Subject) (from' : Nat) (wantsGroups : Bool) :
    Option Found :=
  if a.asksAgain then a.firstFrom subject (subject.text.size + 1 - from') from'
  else
    match a.span? subject from' with
    | none => none
    | some (start, stop) =>
      if !wantsGroups || a.groups = 0 then some { start, stop }
      else
        let viable := (a.viable subject stop (stop - start)).toArray
        let isViable (place node : Nat) : Bool := (viable.getD (place - start) #[]).getD node false
        (a.explore subject isViable stop mostNodes [a.begin start] {} none).map (a.found start)

end Automaton

end Dialogue
