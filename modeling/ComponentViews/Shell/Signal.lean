import ComponentViews.Shell.Format

/-! Signals: their numbers and names, and what they do to a process. -/

namespace ComponentViews.Shell.Signal

/-- Names of signals that everybody knows. -/
def names : List (Nat × String) :=
  [(0, "EXIT"), (1, "HUP"), (2, "INT"), (3, "QUIT"), (4, "ILL"), (5, "TRAP"), (6, "ABRT"), (7, "BUS"), (8, "FPE"),
    (9, "KILL"), (10, "USR1"), (11, "SEGV"), (12, "USR2"), (13, "PIPE"), (14, "ALRM"), (15, "TERM"),
    (17, "CHLD"), (18, "CONT"), (19, "STOP"), (20, "TSTP"), (21, "TTIN"), (22, "TTOU"), (23, "URG"), (24, "XCPU"),
    (25, "XFSZ"), (26, "VTALRM"), (27, "PROF"), (28, "WINCH"), (29, "IO"), (30, "PWR"), (31, "SYS")]

/-- The greatest number of a signal. -/
def greatest : Nat := 64

/-- What the shell reports when a signal has ended a program. -/
def reports : List (Nat × String) :=
  [(1, "Hangup"), (3, "Quit"), (4, "Illegal instruction"), (5, "Trace/breakpoint trap"), (6, "Aborted"),
    (7, "Bus error"), (8, "Floating point exception"), (9, "Killed"), (10, "User defined signal 1"),
    (11, "Segmentation fault"), (12, "User defined signal 2"), (14, "Alarm clock"), (15, "Terminated"),
    (16, "Stack fault"), (24, "CPU time limit exceeded"), (25, "File size limit exceeded"),
    (26, "Virtual timer expired"), (27, "Profiling timer expired"), (29, "I/O possible"), (30, "Power failure"),
    (31, "Bad system call")]

/-- Signals that do not end a process unless it asks for them. -/
def harmless : List Nat := [0, 17, 18, 19, 20, 21, 22, 23, 28]

/-- The one signal that no process can handle. -/
def kill : Nat := 9

def pipe : Nat := 13

/-- Tells that a process has ended which the receiver has started. -/
def child : Nat := 17

def terminate : Nat := 15

/-- The signal that stands for the end of a script. -/
def exit : Nat := 0

/-- What stands for the failure of a command that nobody looks at. -/
def failure : Nat := 65

/-- The number that a text gives for a signal. -/
def number? (text : Octets) : Option Nat :=
  match Format.natural? text with
  | some number => if number ≤ greatest then some number else none
  | none =>
    let name := String.ofList (text.map Char.toUpper)
    (names.find? fun entry => entry.2 = name).map Prod.fst

/-- The name of a signal. Those that are left to programs are counted from both ends. -/
def name (number : Nat) : String :=
  if number = 34 then "RTMIN"
  else if number = 64 then "RTMAX"
  else if 34 < number && number < 50 then "RTMIN+" ++ toString (number - 34)
  else if 49 < number && number < 64 then "RTMAX-" ++ toString (64 - number)
  else (names.lookup number).getD (toString number)

end ComponentViews.Shell.Signal
