import Dialogue.Shell.Builtin.Letters

/-!
Commands about where the shell is. A shell knows the path by which it got where it is, links
included, and by default goes on from there; it may also ask for the path without links.
-/

namespace Dialogue.Shell

open Activity

/-- Whether links are to be left out, by the last letter given. -/
def isPhysical (letters : List Letter) : Bool := letters.getLast?.any (·.letter == 'P')

/-- The names in a path. -/
def namesIn (path : Chars) : List Chars :=
  (Path.pieces (Text.toOctets path)).map Text.ofOctets |>.filter (· ≠ [])

/-- The path that one comes to by following another one from where one is, dots worked out. -/
def followPath (here path : Chars) : Chars :=
  let (start, rest) :=
    if path.head? = some '/' then
      -- Two slashes at the start, and no more, stay two.
      (if path.take 2 = ['/', '/'] && path[2]? ≠ some '/' then ['/', '/'] else ['/'], path)
    else (['/'], here ++ '/' :: path)
  let names := (namesIn rest).foldl
    (fun (names : List Chars) name =>
      if name = ['.', '.'] then names.drop 1 else if name = ['.'] then names else name :: names)
    []
  start ++ (names.reverse.intersperse ['/']).flatten

/-- Notes where the shell is. The path is the one by which it got there, if that is known. -/
def noteDirectory (path : Option Chars) (old : Bool) : Activity Unit := do
  let s ← state
  if old then
    assign "OLDPWD".toList (s.directory.getD [])
    modify fun s =>
      let v := (s.known? "OLDPWD".toList).getD {}
      s.putVariable "OLDPWD".toList (some { v with isExported := true })
  let actual := Text.ofOctets (← ask Program.currentDirectory)
  let directory := path.getD actual
  modify fun s =>
    { s with directory := some directory, physical := if path.isSome then none else some actual }
  assign "PWD".toList directory
  modify fun s =>
    let v := (s.known? "PWD".toList).getD {}
    s.putVariable "PWD".toList (some { v with isExported := true })

/-- Goes to a directory. The answer is whether that worked. -/
def goTo (physical : Bool) (path : Chars) : Activity Bool := do
  let s ← state
  let target : Option Chars :=
    if physical then none
    else if path.head? = some '/' then some (followPath [] path)
    else s.directory.map fun here => followPath here path
  match ← ask (Program.changeDirectory (Text.toOctets (target.getD path))) with
  | .error _ => return false
  | .ok _ => do
    noteDirectory target true
    return true

/-- Whether a path is looked up only from where one is: it is absolute or starts with dots. -/
def isAnchored (path : Chars) : Bool :=
  match path with
  | '/' :: _ => true
  | ['.'] => true
  | '.' :: '/' :: _ => true
  | ['.', '.'] => true
  | '.' :: '.' :: '/' :: _ => true
  | _ => false

/-- The first of some directories that holds a directory of a name, with the path of that. -/
def firstDirectory (name : Chars) : List Path → Activity (Option (Path × Chars))
  | [] => pure none
  | directory :: rest => do
    let path := Path.join directory (Text.toOctets name)
    match ← ask (Program.inspect path true) with
    | .ok kind =>
      if kind.isFolder then return some (directory, Text.ofOctets path)
      else firstDirectory name rest
    | .error _ => firstDirectory name rest

/-- Goes to another directory. -/
def runCd (arguments : List Chars) : Activity Nat := do
  let (letters, arguments) ← readLetters "LP" "" arguments
  let physical := isPhysical letters
  let s ← state
  let (target, shown) :=
    match arguments with
    | [] => ((s.value? "HOME").getD [], false)
    | ['-'] :: _ => ((s.value? "OLDPWD").getD [], true)
    | target :: _ => (target, false)
  let refused : Activity Nat := fail (Text.spell "can't cd to " ++ target)
  let finish (shown worked : Bool) : Activity Nat := do
    if !worked then refused
    else if shown then printOut ((← state).directory.getD [] ++ ['\n'])
    else return 0
  if isAnchored target then finish shown (← goTo physical target)
  else
    let name := if target = [] then ['.'] else target
    let places :=
      match s.value? "CDPATH" with
      | some list => Machine.directoriesOf (Text.toOctets list)
      | none => []
    match ← firstDirectory name places with
    | some (directory, path) => finish (shown || directory != []) (← goTo physical path)
    | none => finish shown (← goTo physical target)

/-- Tells where the shell is. -/
def runPwd (arguments : List Chars) : Activity Nat := do
  let (letters, _) ← readLetters "LP" "" arguments
  if isPhysical letters then
    printOut (Text.ofOctets (← ask Program.currentDirectory) ++ ['\n'])
  else printOut ((← state).directory.getD [] ++ ['\n'])

/-- The bits of permissions that a letter stands for. -/
def permissionBits : Char → Nat
  | 'r' => 4
  | 'w' => 2
  | 'x' => 1
  | _ => 0

/-- The mask of permissions in letters: what each of three parties may do. -/
def maskText (mask : Nat) : Chars :=
  let rights (bits : Nat) : Chars :=
    ['r', 'w', 'x'].filter fun c => (mask / bits) % (2 * permissionBits c) < permissionBits c
  Text.spell "u=" ++ rights 64 ++ Text.spell ",g=" ++ rights 8 ++ Text.spell ",o=" ++ rights 1

/-- The permissions that clauses in letters lead to, of nine bits; none if they make no sense. -/
def applyClauses (permissions : Nat) (clauses : Chars) : Option Nat :=
  let rec clause : Nat → Nat → Chars → Option Nat
    | 0, _, _ => none
    | bound + 1, permissions, text =>
      let isParty (c : Char) : Bool := "ugoa".toList.contains c
      let parties := text.takeWhile isParty
      let parties := if parties = [] || parties.contains 'a' then ['u', 'g', 'o'] else parties
      match text.dropWhile isParty with
      | sign :: rest =>
        if !(['+', '-', '='].contains sign) then none
        else
          let isRight (c : Char) : Bool := "rwx".toList.contains c
          let bits := (['r', 'w', 'x'].filter (rest.takeWhile isRight).contains).foldl
            (fun n c => n + permissionBits c) 0
          let rest := rest.dropWhile isRight
          let unit (c : Char) : Nat := if c = 'u' then 64 else if c = 'g' then 8 else 1
          let permissions := (['u', 'g', 'o'].filter parties.contains).foldl
            (fun (n : Nat) c =>
              let old := (n / unit c) % 8
              let new :=
                if sign = '=' then bits
                else if sign = '+' then Nat.lor old bits
                else old - Nat.land old bits
              n - old * unit c + new * unit c)
            permissions
          match rest with
          | [] => some permissions
          | ',' :: rest => clause bound permissions rest
          | c :: _ =>
            if ['+', '-', '='].contains c then clause bound permissions (parties ++ rest) else none
      | [] => none
  clause (2 * clauses.length + 2) permissions clauses

/-- Tells the mask of permissions, or sets it. -/
def runUmask (arguments : List Chars) : Activity Nat := do
  let (letters, arguments) ← readLetters "S" "" arguments
  let mask ← ask (Program.mask none)
  match arguments with
  | [] =>
    let text :=
      if isGiven 'S' letters then maskText mask
      else
        let digits := Nat.toDigits 8 mask
        List.replicate (4 - digits.length) '0' ++ digits
    printOut (text ++ ['\n'])
  | new :: _ => do
    match new with
    | [] => failText "Illegal mode: "
    | c :: _ =>
      if c.isDigit then
        if !new.all fun c => '0' ≤ c && c ≤ '7' then badNumber new
        else
          let bits := new.foldl (fun n c => n * 8 + (c.toNat - '0'.toNat)) 0
          let _ ← ask (Program.mask (some (bits % 512)))
          return 0
      else
        match applyClauses (511 - mask % 512) new with
        | some permissions => do
          let _ ← ask (Program.mask (some (511 - permissions)))
          return 0
        | none => fail (Text.spell "Illegal mode: " ++ new)

end Dialogue.Shell
