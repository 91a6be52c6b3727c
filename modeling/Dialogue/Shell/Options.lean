import Dialogue.Text.Latin

/-!
The options of a shell. Most have a letter, and all have a name.
-/

namespace Dialogue.Shell

/-- An option of a shell. -/
inductive ShellOption
  /-- A command that fails ends the shell. -/
  | errexit
  /-- Words are not matched against the names of files. -/
  | noglob
  | ignoreeof
  | interactive
  | monitor
  /-- Commands are read and not run. -/
  | noexec
  /-- The script comes from the input. -/
  | stdin
  /-- Commands are shown before they are run. -/
  | xtrace
  /-- Lines are shown as they are read. -/
  | verbose
  | vi
  | emacs
  /-- Files are not overwritten. -/
  | noclobber
  /-- Variables that are set are exported. -/
  | allexport
  | notify
  /-- A parameter that is not set ends the shell. -/
  | nounset
  | privileged
  | nolog
  | debug
deriving Repr, DecidableEq

namespace ShellOption

/-- All options. -/
def all : List ShellOption :=
  [errexit, noglob, ignoreeof, interactive, monitor, noexec, stdin, xtrace, verbose, vi, emacs,
    noclobber, allexport, notify, nounset, privileged, nolog, debug]

/-- The name of an option. -/
def name : ShellOption → String
  | errexit => "errexit"
  | noglob => "noglob"
  | ignoreeof => "ignoreeof"
  | interactive => "interactive"
  | monitor => "monitor"
  | noexec => "noexec"
  | stdin => "stdin"
  | xtrace => "xtrace"
  | verbose => "verbose"
  | vi => "vi"
  | emacs => "emacs"
  | noclobber => "noclobber"
  | allexport => "allexport"
  | notify => "notify"
  | nounset => "nounset"
  | privileged => "privileged"
  | nolog => "nolog"
  | debug => "debug"

/-- The letter of an option. -/
def letter? : ShellOption → Option Char
  | errexit => some 'e'
  | noglob => some 'f'
  | ignoreeof => some 'I'
  | interactive => some 'i'
  | monitor => some 'm'
  | noexec => some 'n'
  | stdin => some 's'
  | xtrace => some 'x'
  | verbose => some 'v'
  | vi => some 'V'
  | emacs => some 'E'
  | noclobber => some 'C'
  | allexport => some 'a'
  | notify => some 'b'
  | nounset => some 'u'
  | privileged => some 'p'
  | nolog => none
  | debug => none

/-- The option of a name. -/
def ofName? (name : Chars) : Option ShellOption := all.find? fun o => o.name.toList == name

/-- The option of a letter. -/
def ofLetter? (letter : Char) : Option ShellOption := all.find? fun o => o.letter? == some letter

/-- An option is found under its letter. -/
theorem ofLetter?_letter (o : ShellOption) (c : Char) (h : o.letter? = some c)
    : ofLetter? c = some o := by
  cases o <;> simp [letter?] at h <;> subst h <;> decide

end ShellOption

end Dialogue.Shell
