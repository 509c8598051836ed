import ComponentViews.Failure
import ComponentViews.Path
import ComponentViews.Text.Blank
import ComponentViews.Text.Utf8

/-! Commands given to external programs, and how they end. What a program does is
left open: a runner takes a command and the state of the world. -/

namespace ComponentViews.External

structure Command where
  program : Path
  arguments : List String
  /-- Where the program runs, else where the caller does. -/
  directory : Option Path
  /-- The program's standard input. -/
  input : String
  deriving DecidableEq, Repr

/-- How a program ended: by itself, or by a signal. -/
inductive Status where
  | exited (code : Nat)
  | signaled (signal : Nat)
  deriving DecidableEq, Repr

namespace Status

def signalNames : List (Nat × String) :=
  [(1, "SIGHUP"), (2, "SIGINT"), (3, "SIGQUIT"), (4, "SIGILL"), (5, "SIGTRAP"), (6, "SIGABRT"), (7, "SIGBUS"),
    (8, "SIGFPE"), (9, "SIGKILL"), (10, "SIGUSR1"), (11, "SIGSEGV"), (12, "SIGUSR2"), (13, "SIGPIPE"),
    (14, "SIGALRM"), (15, "SIGTERM"), (16, "SIGSTKFLT"), (17, "SIGCHLD"), (18, "SIGCONT"), (19, "SIGSTOP"),
    (20, "SIGTSTP"), (21, "SIGTTIN"), (22, "SIGTTOU"), (23, "SIGURG"), (24, "SIGXCPU"), (25, "SIGXFSZ"),
    (26, "SIGVTALRM"), (27, "SIGPROF"), (28, "SIGWINCH"), (29, "SIGIO"), (30, "SIGPWR"), (31, "SIGSYS")]

def text : Status → String
  | .exited code => "exit status: " ++ toString code
  | .signaled signal =>
    match signalNames.lookup signal with
    | some name => "signal: " ++ toString signal ++ " (" ++ name ++ ")"
    | none => "signal: " ++ toString signal

def succeeded (status : Status) : Bool := status = .exited 0

end Status

structure Completion where
  status : Status
  /-- What the program wrote to its standard output. -/
  output : List UInt8
  /-- What the program wrote to its standard error. -/
  errors : List UInt8
  deriving DecidableEq, Repr

namespace Completion

/-- What the program had to say about its failure. -/
def complaint (completion : Completion) : String :=
  String.ofList (Text.trim (Text.Utf8.decode completion.errors))

/-- The output, or why there is none that counts. -/
def outcome (completion : Completion) (name : String) : Except Failure (List UInt8) :=
  if completion.status.succeeded then .ok completion.output
  else .error (.ofMessage (name ++ " exited with " ++ completion.status.text ++ ": " ++ completion.complaint))

end Completion

/-- Runs a command; one that cannot be started has no completion. -/
abbrev Runner (State : Type) := Command → State → Option Completion × State

end ComponentViews.External
