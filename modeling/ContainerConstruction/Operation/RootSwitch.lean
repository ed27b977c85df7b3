import ContainerConstruction.Operation.Mount
import ContainerConstruction.Text.Path

/-!
# Root switch

The new root is entered first, then put in place by one of three methods, and at last the working
directory becomes the new `/`.  The first step that fails is named in the failure, and nothing is taken
back.  With `pivot` the old root is reachable only through a directory that was opened before, and what
is done to it is done with that as the working directory.
-/

namespace ContainerConstruction

namespace ChrootArgs

/-- Fails at a step, with the error of the kernel. -/
def checkStep {α : Type} (step : String) (answer : Except Errno α) : Operation α :=
  Operation.check (fun errno ↦ .rootSwitch step errno.namedText) answer

/-- Fails at a step that concerns the new root. -/
def checkRootStep {α : Type} (step root : String) (answer : Except Errno α) : Operation α :=
  Operation.check (fun errno ↦ .rootSwitch step s!"{root}: {errno.namedText}") answer

/-- Enters the new root and gives its path; `.` stands for the working directory. -/
def enterRoot (root : String) : Operation String := do
  if Path.isHere root then
    return (← Operation.ask .workingDirectory).getD root
  else
    checkRootStep "chdir to new root" root (← Operation.ask (.changeDirectory root))
    return root

/-- Makes the working directory the root. -/
def enterAsRoot : Operation Unit := do
  checkStep "chroot" (← Operation.ask (.changeRoot "."))

/-- Puts the working directory in place of the root and detaches the old one. -/
def pivot (root : String) : Operation Unit := do
  let oldRoot ← Operation.check (fun cause ↦ .rootSwitch "open host root" cause.message)
    (← Operation.ask (.openDirectory "/"))
  checkRootStep "pivot_root" root (← Operation.ask (.pivotRoot "." "."))
  checkStep "fchdir to old root" (← Operation.ask (.changeDirectoryTo oldRoot))
  checkStep "slave propagation on old root"
    (← Operation.ask (.mount none "." none (MountFlags.slave ||| MountFlags.recursive) none))
  checkStep "detach old root" (← Operation.ask (.detachMount "."))

/-- Moves the working directory onto the root and enters it. -/
def moveRoot (root : String) : Operation Unit := do
  checkRootStep "move new root" root
    (← Operation.ask (.mount (some ".") "/" none MountFlags.move none))
  enterAsRoot

def perform (args : ChrootArgs) : Operation Unit := do
  let root ← enterRoot args.root
  match args.method with
  | .pivot => pivot root
  | .move => moveRoot root
  | .chroot => enterAsRoot
  checkStep "chdir /" (← Operation.ask (.changeDirectory "/"))

end ChrootArgs

end ContainerConstruction
