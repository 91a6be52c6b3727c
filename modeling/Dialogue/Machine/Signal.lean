import Dialogue.Text.Latin

/-!
Signals: their numbers, their names, and what is said of a process that one of them has ended.
-/

namespace Dialogue.Machine.Signal

/-- The number above all signals. -/
def limit : Nat := 65

/-- The names of the first signals, from the one of number 1 on. -/
def firstNames : List String :=
  ["HUP", "INT", "QUIT", "ILL", "TRAP", "ABRT", "BUS", "FPE", "KILL", "USR1", "SEGV", "USR2",
    "PIPE", "ALRM", "TERM", "16", "CHLD", "CONT", "STOP", "TSTP", "TTIN", "TTOU", "URG",
    "XCPU", "XFSZ", "VTALRM", "PROF", "WINCH", "IO", "PWR", "SYS"]

/-- What is said of a process that one of the first signals has ended. -/
def firstTexts : List String :=
  ["Hangup", "Interrupt", "Quit", "Illegal instruction", "Trace/breakpoint trap", "Aborted",
    "Bus error", "Floating point exception", "Killed", "User defined signal 1",
    "Segmentation fault", "User defined signal 2", "Broken pipe", "Alarm clock", "Terminated",
    "Stack fault", "Child exited", "Continued", "Stopped (signal)", "Stopped",
    "Stopped (tty input)", "Stopped (tty output)", "Urgent I/O condition",
    "CPU time limit exceeded", "File size limit exceeded", "Virtual timer expired",
    "Profiling timer expired", "Window changed", "I/O possible", "Power failure",
    "Bad system call"]

/-- The number of the first signal that is free for all. -/
def firstFree : Nat := 34

/-- The number of the last signal that is free for all. -/
def lastFree : Nat := 64

/-- The name of a signal; the one of number zero is the end of a program. -/
def name (signal : Nat) : String :=
  if signal = 0 then "EXIT"
  else if signal < firstFree then firstNames.getD (signal - 1) (toString signal)
  else if signal = firstFree then "RTMIN"
  else if signal = lastFree then "RTMAX"
  else if signal < 50 then s!"RTMIN+{signal - firstFree}"
  else s!"RTMAX-{lastFree - signal}"

/-- What is said of a process that a signal has ended. -/
def text (signal : Nat) : String :=
  if signal < firstFree then firstTexts.getD (signal - 1) s!"Unknown signal {signal}"
  else s!"Real-time signal {signal - firstFree}"

/-- The number of a signal, from the given one on, by its name; case does not matter. -/
def ofName? (least : Nat) (name : Chars) : Option Nat :=
  let upper := name.map Char.toUpper
  (List.range limit).find? fun signal =>
    least ≤ signal && (Signal.name signal).toList == upper

end Dialogue.Machine.Signal
