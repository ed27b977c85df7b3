import ContainerConstruction.Config
import ContainerConstruction.Operation.Mount

/-!
# Namespaces

`NamespaceRequest.create` moves the thread into new namespaces.  `withinIpcOf` does a piece of work in
the IPC namespace of another process: a failure to come back outweighs what the work gave.
-/

namespace ContainerConstruction

namespace NamespaceRequest

/-! ## New namespaces -/

/-- The namespace flags with their names, in the order of their bits. -/
def flagNames : List (UInt32 × String) :=
  [(512, "CLONE_FS"), (131072, "CLONE_NEWNS"), (67108864, "CLONE_NEWUTS"),
    (134217728, "CLONE_NEWIPC"), (536870912, "CLONE_NEWPID"), (1073741824, "CLONE_NEWNET")]

def ownDirectories : UInt32 := 512
def newMount : UInt32 := 131072
def newUts : UInt32 := 67108864
def newIpc : UInt32 := 134217728
def newPid : UInt32 := 536870912
def newNetwork : UInt32 := 1073741824

def flagIf (wanted : Bool) (flag : UInt32) : UInt32 := if wanted then flag else 0

/-- The flags of a request.  Root and working directory always become the thread's own; a user
namespace cannot be had. -/
def cloneFlags (request : NamespaceRequest) : Except Failure UInt32 :=
  if request.user then
    .error (.config "user namespaces cannot be created by a multi-threaded supervisor")
  else
    .ok (ownDirectories ||| flagIf request.mount newMount ||| flagIf request.pid newPid |||
      flagIf request.network newNetwork ||| flagIf request.ipc newIpc ||| flagIf request.uts newUts)

def shownFlags (flags : UInt32) : String :=
  "CloneFlags(" ++
    " | ".intercalate ((flagNames.filter fun (flag, _) ↦ flags &&& flag ≠ 0).map (·.2)) ++ ")"

/-- Moves the thread into new namespaces.  Mounts in a new mount namespace do not reach the host. -/
def create (request : NamespaceRequest) : Operation Unit := do
  let flags ← Operation.ofResult request.cloneFlags
  let answer ← Operation.ask (.unshare flags)
  Operation.check
    (fun errno ↦ .namespaceEntry s!"unshare {shownFlags flags} failed: {errno.namedText}") answer
  if request.mount then
    let answer ← Operation.ask
      (.mount none "/" none (MountFlags.recursive ||| MountFlags.isPrivate) none)
    Operation.check
      (fun errno ↦ .namespaceEntry s!"making / private failed: {errno.namedText}") answer

end NamespaceRequest

/-! ## The IPC namespace of a process -/

namespace IpcNamespace

def openFile (path : String) : Operation Descriptor := do
  let answer ← Operation.ask (.openNamespace path)
  Operation.check (fun cause ↦ .namespaceEntry s!"cannot open {path}: {cause.message}") answer

def enter (namespaceFile : Descriptor) : Operation Unit := do
  let answer ← Operation.ask (.joinIpc namespaceFile)
  Operation.check (fun errno ↦ .namespaceEntry s!"setns IPC failed: {errno.namedText}") answer

/-- Wraps a failure into another one. -/
def describing {α : Type} (describe : String → Failure) (operation : Operation α) : Operation α :=
  tryCatch operation fun failure ↦ throw (describe failure.message)

/-- Does a piece of work in the IPC namespace of a process, or just does it where it is if the process
id is not positive.  A panic of the work leaves the thread where it is. -/
def within {α : Type} (pid : Int32) (work : Operation α) : Operation α := do
  if pid ≤ 0 then work
  else
    let own ← openFile "/proc/thread-self/ns/ipc"
    let host ← openFile s!"/proc/{pid.toInt}/ns/ipc"
    describing (fun message ↦
      .namespaceEntry s!"while joining host IPC namespace of pid {pid.toInt}: {message}") (enter host)
    let result ← ExceptT.lift work.run
    describing (fun message ↦
      .namespaceRestore s!"while rejoining container IPC namespace: {message}") (enter own)
    Operation.ofResult result

end IpcNamespace

end ContainerConstruction
