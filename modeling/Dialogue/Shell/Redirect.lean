import Dialogue.Shell.Expansion

/-!
Redirections: what the descriptors of a command stand for while it runs. They are kept aside before
and put back afterwards.
-/

namespace Dialogue.Shell

open Activity

/-- A redirection whose words have been worked out. -/
inductive Prepared
  | file (descriptor : Nat) (mode : FileMode) (path : Chars)
  | duplicate (descriptor source : Nat)
  | close (descriptor : Nat)
  | text (descriptor number : Nat)
deriving Repr, DecidableEq

/-- The descriptor that is redirected. -/
def Prepared.target : Prepared → Nat
  | .file descriptor _ _ => descriptor
  | .duplicate descriptor _ => descriptor
  | .close descriptor => descriptor
  | .text descriptor _ => descriptor

/-- Works out the words of a redirection. -/
def prepare (run : Runner) : Redirection → Activity Prepared
  | .file descriptor mode target => do return .file descriptor mode (← expandText run target)
  | .duplicate descriptor source => do
    match ← expandText run source with
    | ['-'] => return .close descriptor
    | [c] =>
      if c.isDigit then return .duplicate descriptor (c.toNat - '0'.toNat)
      else refuse
    | _ => refuse
  | .text descriptor number => pure (.text descriptor number)
where
  /-- Refuses what is no descriptor. -/
  refuse : Activity Prepared := do
    modify fun s => { s with line := s.readingLine }
    failText "Syntax error: Bad fd number"

/-- Why a file could not be opened, as the shell says it. -/
def openFaultText (isMade : Bool) (fault : Fault) : String :=
  if fault = .noEntry ∨ fault = .notDirectory then
    if isMade then "Directory nonexistent" else "No such file"
  else fault.systemText

/-- Opens a file, and fails if it cannot be opened. -/
def openFor (mode : FileMode) (path : Chars) : Activity Nat := do
  let s ← state
  let opening : OpenMode :=
    match mode with
    | .read => .read
    | .write => if s.has .noclobber then .create else .write
    | .clobber => .write
    | .append => .append
    | .update => .update
  match ← ask (Program.openFile (Text.toOctets path) opening) with
  | .ok descriptor => return descriptor
  | .error fault =>
    let found ← ask (Program.inspect (Text.toOctets path) true)
    let isThere := opening = .create && fault = .isDirectory && found.toOption.isSome
    let isMade := mode ≠ .read && !isThere
    let verb := if isMade then "cannot create " else "cannot open "
    fail (Text.spell verb ++ path ++ Text.spell s!": {openFaultText isMade fault}")

/-- Opens a pipe that holds a text. -/
def openText (run : Runner) (number : Nat) : Activity Nat := do
  let text ←
    match (← state).texts.lookup number with
    | some text => expandHereText run text
    | none => pure []
  let (reading, writing) ← ask Program.pipe
  let _ ← ask (Program.write writing (Text.toOctets text))
  ask (Program.close writing)
  return reading

/-- Makes a descriptor stand for what another one stands for, and drops the other. -/
def moveDescriptor (source target : Nat) : Activity Unit := do
  if source ≠ target then
    let _ ← ask (Program.duplicate source target)
    ask (Program.close source)

/-- Keeps what a descriptor stands for, if it is to be kept and has not been yet. It is closed then,
unless it has just been opened. -/
def keep (keeps : Bool) (descriptor : Nat) (justOpened : Bool) : Activity Unit := do
  let s ← state
  match keeps, s.saved with
  | true, frame :: outer =>
    if (frame.lookup descriptor).isNone then
      if justOpened then
        modify fun s => { s with saved := ((descriptor, none) :: frame) :: outer }
      else
        let kept ← ask (Program.save descriptor)
        ask (Program.close descriptor)
        modify fun s => { s with saved := ((descriptor, kept) :: frame) :: outer }
  | _, _ => pure ()

/-- Redirects a descriptor. -/
def redirect (run : Runner) (keeps : Bool) (redirection : Prepared) : Activity Unit := do
  let descriptor := redirection.target
  let connect (opened : Nat) : Activity Unit := do
    keep keeps descriptor (opened = descriptor)
    moveDescriptor opened descriptor
  match redirection with
  | .file _ mode path => connect (← openFor mode path)
  | .text _ number => connect (← openText run number)
  | .close _ => do
    keep keeps descriptor false
    ask (Program.close descriptor)
  | .duplicate _ source => do
    if source ≠ descriptor then
      keep keeps descriptor false
      match ← ask (Program.duplicate source descriptor) with
      | .ok _ => pure ()
      | .error fault => fail (Text.spell s!"{source}: {fault.systemText}")

/-- Redirects descriptors for good. -/
def redirectAll (run : Runner) (redirections : List Prepared) : Activity Unit :=
  redirections.forM (redirect run false)

/-- Redirects descriptors, keeping what they stood for in a frame of its own. The answer is whether
it worked. -/
def pushRedirections (run : Runner) (redirections : List Prepared) : Activity Bool := do
  modify fun s => { s with saved := [] :: s.saved }
  match ← attempt (redirections.forM (redirect run true)) with
  | .ok _ => return true
  | .error .fault => return false
  | .error raised => raise raised

/-- Gives descriptors back what they stood for, or closes what was kept for them. -/
def popFrame (drops : Bool) : List (Nat × Option Nat) → Activity Unit
  | [] => pure ()
  | (descriptor, kept) :: rest => do
    match kept with
    | some kept => if drops then ask (Program.close kept) else moveDescriptor kept descriptor
    | none => if !drops then ask (Program.close descriptor)
    popFrame drops rest

/-- Ends the redirections of the innermost command. They stay as they are if the flag says so. -/
def popRedirections (drops : Bool) : Activity Unit := do
  match (← state).saved with
  | frame :: outer => do
    modify fun s => { s with saved := outer }
    popFrame drops frame
  | [] => pure ()

/-- Ends redirections until only so many commands are left that run with some. -/
def unwindRedirections : Nat → Nat → Activity Unit
  | 0, _ => pure ()
  | bound + 1, count => do
    if count < (← state).saved.length then
      popRedirections false
      unwindRedirections bound count

/-- Where complaints went before the descriptor for them was redirected. -/
def formerErrors : Activity Nat := do
  match (← state).saved with
  | frame :: _ =>
    match frame.lookup 2 with
    | some (some kept) => return kept
    | _ => return 2
  | [] => return 2

end Dialogue.Shell
