import Multilint.Decimal.Leading
/-!
# Signals

The names and numbers of signals. A process that catches none of them ends by most of them. Number zero stands for
the end of a shell.
-/

namespace Multilint

namespace Shell

namespace Signal

/-- The names of the signals that have one, in order of their numbers, the end of a shell first. -/
def names : List String :=
  ["EXIT", "HUP", "INT", "QUIT", "ILL", "TRAP", "ABRT", "BUS", "FPE", "KILL", "USR1", "SEGV", "USR2", "PIPE",
    "ALRM", "TERM", "16", "CHLD", "CONT", "STOP", "TSTP", "TTIN", "TTOU", "URG", "XCPU", "XFSZ", "VTALRM",
    "PROF", "WINCH", "IO", "PWR", "SYS"]

/-- The number behind the last signal. -/
def bound : Nat := 65

/-- The name of a signal of the system's own range, or its number where it has no name. -/
def lateName (n : Nat) : String :=
  if n = 34 then "RTMIN"
  else if n = 64 then "RTMAX"
  else if 34 < n && n ≤ 49 then "RTMIN+" ++ toString (n - 34)
  else if 49 < n && n < 64 then "RTMAX-" ++ toString (64 - n)
  else toString n

/-- The name of a signal, or its number where it has no name. -/
def nameOf (n : Nat) : String :=
  (names[n]?).getD (lateName n)

/-- The signal that a number writes, or a name in letters of any case; only names from a least number on count. -/
def ofText? (least : Nat) (s : String) : Option Nat :=
  let digits := s.toList
  if !digits.isEmpty && digits.all Char.isDigit then
    let n := Numeral.value digits
    if n < bound then some n else none
  else
    ((List.range bound).filter (least ≤ ·)).find? fun n => nameOf n = String.ofList (digits.map Char.toUpper)

/-- The signals that end no process. -/
def isHarmless (n : Nat) : Bool :=
  [0, 17, 18, 19, 20, 21, 22, 23, 28].contains n

/-- Whether a process can do something of its own about a signal. -/
def isCatchable (n : Nat) : Bool :=
  n ≠ 9 && n ≠ 19

/-- What a shell writes about a process that a signal ended. -/
def obituary (n : Nat) : String :=
  match n with
  | 1 => "Hangup\n"
  | 3 => "Quit\n"
  | 4 => "Illegal instruction\n"
  | 5 => "Trace/breakpoint trap\n"
  | 6 => "Aborted\n"
  | 7 => "Bus error\n"
  | 8 => "Floating point exception\n"
  | 9 => "Killed\n"
  | 10 => "User defined signal 1\n"
  | 11 => "Segmentation fault\n"
  | 12 => "User defined signal 2\n"
  | 14 => "Alarm clock\n"
  | 15 => "Terminated\n"
  | 16 => "Stack fault\n"
  | 24 => "CPU time limit exceeded\n"
  | 25 => "File size limit exceeded\n"
  | 26 => "Virtual timer expired\n"
  | 27 => "Profiling timer expired\n"
  | 29 => "I/O possible\n"
  | 30 => "Power failure\n"
  | 31 => "Bad system call\n"
  | n => if 34 ≤ n && n < bound then "Real-time signal " ++ toString (n - 34) ++ "\n" else ""

end Signal

end Shell

end Multilint
