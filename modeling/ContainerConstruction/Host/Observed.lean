import ContainerConstruction.Host.Execution
import ContainerConstruction.Process.Monitor

/-!
# Observed processes

A process that a supervisor watches.  Its course depends on nothing but the signals that reach it and
when they do, so it is kept as a function of its schedule: after every signal the course is known anew.

A process that has been stopped is not reached by further signals until it is resumed, except by the one
that nothing can hold up.
-/

namespace ContainerConstruction

/-- A process with the signals that were sent to it. -/
structure Observed where
  /-- How far the process gets on a schedule. -/
  course : Clock → Ended
  /-- The signals of each sleep so far. -/
  sleeps : List (List Nat)
  isStopped : Bool
  /-- The signals that wait for the process to be resumed. -/
  held : List Nat
  isCollected : Bool

namespace Observed

/-- A process that has just been started. -/
def begin (course : Clock → Ended) : Observed := ⟨course, [], false, [], false⟩

def finished (ended : Ended) : Observed := begin fun _ ↦ ended

/-- How far the process has got. -/
def sofar (process : Observed) : Ended := process.course (.scheduled process.sleeps)

def hasEnded (process : Observed) : Bool := process.sofar.ending.exitStatus?.isSome

/-- Lets signals reach the process in its next sleep. -/
def reach (signals : List Nat) (process : Observed) : Observed :=
  { process with sleeps := process.sleeps ++ [signals] }

/-- The signals that stop a process. -/
def stopSignals : List Nat := [Signal.stop, 20, 21, 22]

def send (signal : Nat) (process : Observed) : Except Errno Unit × Observed :=
  if process.isCollected then (.error .noProcess, process)
  else if process.hasEnded then (.ok (), process)
  else if signal = Signal.kill then (.ok (), process.reach [signal])
  else if stopSignals.contains signal then (.ok (), { process with isStopped := true })
  else if signal = Signal.resume then
    (.ok (), { process with isStopped := false, held := [] }.reach (process.held ++ [signal]))
  else if process.isStopped then (.ok (), { process with held := process.held ++ [signal] })
  else (.ok (), process.reach [signal])

/-- Reports the end, once. -/
def poll (process : Observed) : Except Errno WaitStatus × Observed :=
  if process.isCollected then (.error .noChild, process)
  else
    match process.sofar.ending.exitStatus? with
    | some status => (.ok (.ofExit status), { process with isCollected := true })
    | none => (.ok .stillAlive, process)

/-- The most sleeps that are waited for. -/
def patience : Nat := 1000

/-- Lets time pass until something is the case. -/
def passTime (reached : Observed → Bool) : Nat → Observed → Observed
  | 0, process => process
  | patience + 1, process =>
    if reached process || process.hasEnded then process
    else passTime reached patience (process.reach [])

def fileIsThere (path : String) (process : Observed) : Bool :=
  let host := process.sofar.world.host
  let who := host.accessor .server
  match Lookup.find host.tree who.identity who.place.directory true path with
  | .ok _ => true
  | .error _ => false

/-- Waits for a moment. -/
def await (moment : Moment) (process : Observed) : Observed :=
  if process.isStopped then process
  else
    match moment with
    | .ended => passTime hasEnded patience process
    | .fileAppears path => passTime (fileIsThere path) patience process

/-- Answers the calls of a supervisor. -/
def machine : Machine Child Observed where
  answer
    | .send signal, process => process.send signal
    | .poll, process => process.poll
    | .await moment, process => ((), process.await moment)

/-- A process that is not there. -/
def absent : Machine Child Unit where
  answer
    | .send _, state => (.error .noProcess, state)
    | .poll, state => (.error .noChild, state)
    | .await _, state => ((), state)

end Observed

end ContainerConstruction
