import ContainerConstruction.Operation.Namespaces
import ContainerConstruction.Request.Basic
import ContainerConstruction.Text.Blank
import ContainerConstruction.Text.Path
import ContainerConstruction.Text.Utf8

/-!
# Encrypted devices

An encrypted device is opened by a tool of the host under a fresh name.  The key reaches the tool
through its input alone.  A tool that has to run in the IPC namespace of another process is run from a
thread of its own, which ends with it.
-/

namespace ContainerConstruction

namespace CryptDevice

def tool : String := "cryptsetup"

/-- What the names of opened devices begin with. -/
def namePrefix : String := "stockade-crypt-"

def directory : String := "/dev/mapper"

/-- The path of an opened device. -/
def mappedPath (name : String) : String := Path.join directory name

def locate : Operation String := do
  let answer ← Operation.ask (.locateProgram tool)
  Operation.check (fun message ↦ .device s!"{tool} not found: {message}") answer

/-- What the tool is asked to do. -/
def arguments (device name : String) : List String :=
  ["open", "--type", "luks2", "--key-file", "-", device, name]

/-- Opens a device with the tool at `program`, and gives the name it was opened under. -/
def openDevice (program : String) (key : List UInt8) (device : String) : Operation String := do
  let name := namePrefix ++ (← Operation.ask .freshName)
  match ← Operation.ask (.runTool program (arguments device name) key) with
  | .error (.start cause) => throw (.device s!"cannot run {program}: {cause.message}")
  | .error (.wait cause) => throw (.device s!"waiting for {program} failed: {cause.message}")
  | .ok result =>
    if result.status.isSuccess then return name
    else
      let errors := Text.trimmed (Text.Utf8.toTextLossy result.errors)
      throw (.device s!"unlocking {device} failed ({result.status.message}): {errors}")

/-- Does a piece of work on a thread of its own.  The thread ends with the work, and a panic ends
nothing else. -/
def onOwnThread {α : Type} (work : Operation α) : Operation α := do
  Operation.check (fun cause ↦ .internal s!"cannot spawn unlock thread: {cause.message}")
    (← Operation.ask .beginThread)
  let outcome ← ExceptT.lift (Program.attempt work.run)
  Operation.ask .endThread
  match outcome with
  | .panicked _ => throw (.internal "unlock thread panicked")
  | .returned result => Operation.ofResult result

end CryptDevice

/-- Opens the device of a request. -/
def CryptArgs.perform (args : CryptArgs) : Operation CryptReply := do
  let program ← CryptDevice.locate
  let work := CryptDevice.openDevice program args.key args.loopDevice
  let name ←
    if 0 < args.masterPid then CryptDevice.onOwnThread (IpcNamespace.within args.masterPid work)
    else work
  return ⟨CryptDevice.mappedPath name⟩

end ContainerConstruction
