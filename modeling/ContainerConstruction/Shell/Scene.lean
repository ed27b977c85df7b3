import ContainerConstruction.Shell.State

/-!
# Scenes

A shell together with its world, and how evaluation goes on after a command.  A command is evaluated in a
`Mode`: whether its failure is looked at by what surrounds it, and whether it is the last thing the shell
does.
-/

namespace ContainerConstruction.Shell

/-- A shell in its world. -/
structure Scene where
  state : State
  world : World

/-- How evaluation goes on. -/
inductive Flow where
  | next
  | stop (ending : Ending)
  /-- Leaves loops. -/
  | leave (levels : Nat)
  /-- Begins a loop again, after leaving those inside it. -/
  | again (levels : Nat)
  /-- Leaves a function. -/
  | back
  deriving DecidableEq, Repr

/-- How a command is looked at. -/
structure Mode where
  isTested : Bool
  isFinal : Bool

namespace Mode

def test : Mode := ⟨true, false⟩

/-- The same, with something behind. -/
def inner (mode : Mode) : Mode := ⟨mode.isTested, false⟩

end Mode

namespace Scene

def withStatus (status : Nat) (scene : Scene) : Scene :=
  { scene with state := { scene.state with status := status } }

def complain (line : Nat) (message : String) (scene : Scene) : Scene :=
  { scene with world := scene.state.complain line message scene.world }

/-- Goes on with a status. -/
def next (status : Nat) (scene : Scene) : Flow × Scene := (.next, scene.withStatus status)

/-- Ends the shell after a diagnostic. -/
def abort (line : Nat) (message : String) (scene : Scene) : Flow × Scene :=
  (.stop (.exited 2), (scene.complain line message).withStatus 2)

def withLoops (loops : Nat) (scene : Scene) : Scene :=
  { scene with state := { scene.state with loops := loops } }

/-- Begins to repeat a loop. -/
def enterLoop (scene : Scene) : Scene := scene.withLoops (scene.state.loops + 1)

def write (bytes : List UInt8) (scene : Scene) : Scene :=
  { scene with world := scene.world.write (scene.state.task.stream 1) bytes }

/-- Ends the shell if a command has failed and that is to end it. -/
def checkFailure (mode : Mode) : Flow × Scene → Flow × Scene
  | (.next, scene) =>
    if scene.state.exitsOnError && !mode.isTested && scene.state.status ≠ 0 then
      (.stop (.exited scene.state.status), scene)
    else (.next, scene)
  | result => result

end Scene

end ContainerConstruction.Shell
