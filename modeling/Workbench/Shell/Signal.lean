import Workbench.Text.Bytes

/-!
# Signals

The signals that a process can get: their numbers and names, and what becomes of a process that does
not handle them.
-/

namespace Workbench.Shell

/-- signals by number -/
def signals : List (Nat × String) :=
  [(1, "HUP"), (2, "INT"), (3, "QUIT"), (4, "ILL"), (5, "TRAP"), (6, "ABRT"), (7, "BUS"),
    (8, "FPE"), (9, "KILL"), (10, "USR1"), (11, "SEGV"), (12, "USR2"), (13, "PIPE"), (14, "ALRM"),
    (15, "TERM"), (16, "STKFLT"), (17, "CHLD"), (18, "CONT"), (19, "STOP"), (20, "TSTP"),
    (21, "TTIN"), (22, "TTOU"), (23, "URG"), (24, "XCPU"), (25, "XFSZ"), (26, "VTALRM"),
    (27, "PROF"), (28, "WINCH"), (29, "IO"), (30, "PWR"), (31, "SYS")]

/-- the signals that end no process -/
def harmless : List Nat := [0, 17, 18, 19, 20, 21, 22, 23, 28]

def signalName (n : Nat) : Text :=
  if n = 0 then "EXIT".toList else ((signals.lookup n).getD (toString n)).toList

/-- a signal by its number or by its name in any case; the end of a shell counts as one -/
def signal? (t : Text) : Option Nat :=
  if t ≠ [] ∧ t.all Char.isDigit then (String.ofList t).toNat?.filter (· ≤ 64)
  else
    let name := t.map Char.toUpper
    if name = "EXIT".toList then some 0
    else (signals.find? fun s => s.2.toList = name).map (·.1)

/-- what is said of a process that a signal has ended; of some nothing is said -/
def obituary (n : Nat) : Text :=
  match n with
  | 1 => "Hangup".toList
  | 3 => "Quit".toList
  | 4 => "Illegal instruction".toList
  | 5 => "Trace/breakpoint trap".toList
  | 6 => "Aborted".toList
  | 7 => "Bus error".toList
  | 8 => "Floating point exception".toList
  | 9 => "Killed".toList
  | 10 => "User defined signal 1".toList
  | 11 => "Segmentation fault".toList
  | 12 => "User defined signal 2".toList
  | 14 => "Alarm clock".toList
  | 15 => "Terminated".toList
  | _ => []

end Workbench.Shell
