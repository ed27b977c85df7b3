/-!
# Signals and the end of processes

Signals are numbers, of which those up to 31 have names.  A process ends with an exit code or by a
signal; `WaitStatus` also covers what a parent can be told about a process that goes on.
-/

namespace ContainerConstruction

/-! ## Signals -/

namespace Signal

/-- The named signals in the order of their numbers, from one. -/
def names : List String :=
  ["SIGHUP", "SIGINT", "SIGQUIT", "SIGILL", "SIGTRAP", "SIGABRT", "SIGBUS", "SIGFPE", "SIGKILL",
    "SIGUSR1", "SIGSEGV", "SIGUSR2", "SIGPIPE", "SIGALRM", "SIGTERM", "SIGSTKFLT", "SIGCHLD",
    "SIGCONT", "SIGSTOP", "SIGTSTP", "SIGTTIN", "SIGTTOU", "SIGURG", "SIGXCPU", "SIGXFSZ",
    "SIGVTALRM", "SIGPROF", "SIGWINCH", "SIGIO", "SIGPWR", "SIGSYS"]

/-- What a shell says of a process that one of the named signals has ended. -/
def descriptions : List String :=
  ["Hangup", "Interrupt", "Quit", "Illegal instruction", "Trace/breakpoint trap", "Aborted", "Bus error",
    "Floating point exception", "Killed", "User defined signal 1", "Segmentation fault",
    "User defined signal 2", "Broken pipe", "Alarm clock", "Terminated", "Stack fault", "Child exited",
    "Continued", "Stopped (signal)", "Stopped", "Stopped (tty input)", "Stopped (tty output)",
    "Urgent I/O condition", "CPU time limit exceeded", "File size limit exceeded",
    "Virtual timer expired", "Profiling timer expired", "Window changed", "I/O possible",
    "Power failure", "Bad system call"]

def name? : Nat → Option String
  | 0 => none
  | number + 1 => names[number]?

def hangup : Nat := 1
def interrupt : Nat := 2
def illegal : Nat := 4
def trap : Nat := 5
def bus : Nat := 7
def floatingPoint : Nat := 8
def kill : Nat := 9
def segmentation : Nat := 11
def brokenPipe : Nat := 13
def terminate : Nat := 15
def child : Nat := 17
def resume : Nat := 18
def stop : Nat := 19
def badSystemCall : Nat := 31

/-- Whether a number, as it arrives, is one of the named signals. -/
def isNamed (raw : Int) : Bool := 1 ≤ raw && raw ≤ 31

/-- The signals that cannot be caught, or that a fault of the catching process itself raises. -/
def uncaught : List Nat := [illegal, floatingPoint, kill, segmentation, stop]

/-- The faults that keep their effect. -/
def faults : List Nat := [bus, trap, badSystemCall]

/-- The signals a supervisor listens to while a container runs. -/
def monitored : List Nat :=
  ((List.range 31).map (· + 1)).filter fun signal ↦
    !uncaught.contains signal && !faults.contains signal

end Signal

/-! ## Ends -/

inductive ExitStatus where
  | exited (code : Nat)
  | signaled (signal : Nat) (coreDumped : Bool)
  deriving DecidableEq, Repr

namespace ExitStatus

def isSuccess : ExitStatus → Bool
  | .exited code => code = 0
  | .signaled .. => false

def message : ExitStatus → String
  | .exited code => s!"exit status: {code}"
  | .signaled signal coreDumped =>
    let name := match Signal.name? signal with
      | some name => s!" ({name})"
      | none => ""
    s!"signal: {signal}{name}" ++ if coreDumped then " (core dumped)" else ""

end ExitStatus

/-- What a parent is told about a process. -/
inductive WaitStatus where
  | exited (code : Int)
  | signaled (signal : Nat) (coreDumped : Bool)
  | stopped (signal : Nat)
  | traceEvent
  | traceSystemCall
  | continued
  | stillAlive
  deriving DecidableEq, Repr

namespace WaitStatus

/-- The exit code of a run: that of the process, or 128 more than the signal that ended it. -/
def exitCode : WaitStatus → Int
  | .exited code => code
  | .signaled signal _ => 128 + signal
  | _ => 255

/-- What a parent is told about a process that has ended. -/
def ofExit : ExitStatus → WaitStatus
  | .exited code => .exited code
  | .signaled signal coreDumped => .signaled signal coreDumped

end WaitStatus

end ContainerConstruction
