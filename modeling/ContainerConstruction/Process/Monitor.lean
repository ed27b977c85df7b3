import ContainerConstruction.Failure
import ContainerConstruction.Process.Status
import ContainerConstruction.Program

/-!
# Monitoring a process

While a container runs, its supervisor hands on the signals that reach it.  The signal that tells of a
child is not handed on: it makes the supervisor ask what there is to be told, until the process is known
to have ended or nothing more is reported.

Signals come as a list, in which a moment to wait for may stand between two of them.  `monitor` gives
back what of the list it has not looked at.
-/

namespace ContainerConstruction

/-! ## A monitored process -/

/-- A moment in the life of a process. -/
inductive Moment where
  /-- The process has ended. -/
  | ended
  /-- There is a file at the path. -/
  | fileAppears (path : String)
  deriving DecidableEq, Repr

/-- What reaches a supervisor. -/
inductive Arrival where
  /-- A signal, by the number it is delivered under. -/
  | signal (raw : Int)
  | pause (moment : Moment)
  deriving DecidableEq, Repr

/-- What a supervisor does about a process. -/
inductive ChildCall where
  | send (signal : Nat)
  /-- Asks for the next report, without waiting for one. -/
  | poll
  | await (moment : Moment)
  deriving DecidableEq, Repr

namespace ChildCall

abbrev Answer : ChildCall → Type
  | send _ => Except Errno Unit
  | poll => Except Errno WaitStatus
  | await _ => Unit

end ChildCall

/-- A process as its supervisor sees it. -/
abbrev Child : Interface := ⟨ChildCall, ChildCall.Answer⟩

/-! ## Monitoring -/

namespace Monitor

/-- The most reports in a row that say nothing about an end. -/
def patience : Nat := 65536

def waitFailure (pid : String) (errno : Errno) : Failure :=
  .process s!"waitpid {pid} failed: {errno.namedText}"

/-- The failure of signals that stop coming. -/
def endFailure (pid : String) : Failure :=
  .process s!"signal stream ended before pid {pid} exited"

/-- Asks for reports until the process has ended or there are no more.  Gives the end, if it has come. -/
def reap (pid : String) : Nat → Program Child (Except Failure (Option WaitStatus))
  | 0 => return .ok none
  | patience + 1 =>
    .call ChildCall.poll fun report ↦
      match report with
      | .ok .stillAlive => return .ok none
      | .ok (.exited code) => return .ok (some (.exited code))
      | .ok (.signaled signal coreDumped) => return .ok (some (.signaled signal coreDumped))
      | .ok _ => reap pid patience
      | .error errno =>
        if errno = .interrupted then reap pid patience
        else return .error (waitFailure pid errno)

/-- Hands signals on until the process has ended. -/
def monitor (patience : Nat) (pid : String) :
    List Arrival → Program Child (Except Failure WaitStatus × List Arrival)
  | [] => return (.error (endFailure pid), [])
  | .pause moment :: rest => .call (ChildCall.await moment) fun _ ↦ monitor patience pid rest
  | .signal raw :: rest =>
    if !Signal.isNamed raw then monitor patience pid rest
    else if raw = Signal.child then
      (reap pid patience).bind fun result ↦
        match result with
        | .error failure => return (.error failure, rest)
        | .ok (some status) => return (.ok status, rest)
        | .ok none => monitor patience pid rest
    else .call (ChildCall.send raw.toNat) fun _ ↦ monitor patience pid rest

end Monitor

end ContainerConstruction
