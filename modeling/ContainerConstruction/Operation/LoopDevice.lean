import ContainerConstruction.Operation.Identity
import ContainerConstruction.Operation.Image
import ContainerConstruction.Request.Basic
import ContainerConstruction.Text.Path
import ContainerConstruction.Text.Utf8

/-!
# Loop devices

An image is attached to the first free one of the loop devices that may be tried.  A device that is
absent or in use is passed over, and any other failure ends the search.  The search runs under an
identity that may use the devices; the image itself is opened under the caller's own.
-/

namespace ContainerConstruction

namespace LoopDevice

/-! ## Nodes -/

def directory : String := "/dev"

def major : UInt64 := 7

/-- The group that owns the device nodes. -/
def diskGroup : String := "disk"

def path (index : Nat) : String := Path.join directory s!"loop{index}"

/-- Makes the node of a device, unless it is there. -/
def ensureNode (index : Nat) : Operation Unit := do
  if ← Operation.ask (.pathExists (path index)) then return ()
  else
    match ← Operation.ask (.makeBlockNode (path index) 0o660 major (UInt64.ofNat index)) with
    | .ok _ => return ()
    | .error errno =>
      if errno = .fileExists then return ()
      else throw (.device s!"cannot create {path index}: {errno.namedText}")

/-! ## Attaching -/

/-- The most bytes of an image's name that a device keeps. -/
def nameLength : Nat := 63

def setup (info : LoopInfo) (name : String) : LoopSetup :=
  ⟨info.offset, info.sizeLimit, info.readOnly, info.autoclear,
    (Text.Utf8.ofText name).take nameLength⟩

/-- Attaches an image to one device.  Gives whether the device was free. -/
def attachTo (image : Descriptor) (writable : Bool) (setup : LoopSetup) (index : Nat) :
    Operation Bool := do
  ensureNode index
  match ← Operation.ask (.openDevice (path index) writable) with
  | .error cause =>
    if cause = .errno .noDeviceAddress then return false
    else throw (.device s!"cannot open {path index}: {cause.message}")
  | .ok device =>
    match ← Operation.ask (.bindLoop device image) with
    | .error errno =>
      if errno = .busy then return false
      else throw (.device s!"LOOP_SET_FD on {path index} failed: {errno.namedText}")
    | .ok _ =>
      match ← Operation.ask (.configureLoop device setup) with
      | .ok _ => return true
      | .error errno =>
        let _ ← Operation.ask (.unbindLoop device)
        throw (.device s!"LOOP_SET_STATUS64 on {path index} failed: {errno.namedText}")

/-- Tries `count` devices from `index` on, and gives the first free one. -/
def scan (image : Descriptor) (writable : Bool) (setup : LoopSetup) :
    (count index : Nat) → Operation (Option Nat)
  | 0, _ => return none
  | count + 1, index => do
    if ← attachTo image writable setup index then return some index
    else scan image writable setup count (index + 1)

/-- Whether a device holds the same part of the same image. -/
def holds (image : FileIdentity) (info : LoopInfo) (status : LoopStatus) : Bool :=
  status.image = image && status.offset = info.offset && status.sizeLimit = info.sizeLimit &&
    status.readOnly == info.readOnly

/-- The first of `count` devices from `index` on that holds an image already. -/
def findHolding (image : FileIdentity) (info : LoopInfo) : (count index : Nat) → Operation (Option Nat)
  | 0, _ => return none
  | count + 1, index => do
    match ← Operation.ask (.openDevice (path index) false) with
    | .error _ => findHolding image info count (index + 1)
    | .ok device =>
      match ← Operation.ask (.loopStatus device) with
      | .error _ => findHolding image info count (index + 1)
      | .ok status =>
        if holds image info status then return some index
        else findHolding image info count (index + 1)

/-- A device that holds the image already, where one may be shared. -/
def findShared (args : LoopArgs) (image : Descriptor) : Operation (Option Nat) := do
  if args.shared then
    let identity ← Operation.check (fun cause ↦ .device s!"cannot stat image: {cause.message}")
      (← Operation.ask (.identifyFile image))
    findHolding identity args.info args.maxDevices.toNat 0
  else return none

/-- Attaches an open image and gives the number of the device. -/
def attach (args : LoopArgs) (image : Descriptor) (name : String) : Operation Nat := do
  match ← findShared args image with
  | some index => return index
  | none =>
    match ← scan image (ImageSource.isWritable args.mode) (setup args.info name)
        args.maxDevices.toNat 0 with
    | some index => return index
    | none => throw (.device s!"no loop devices available (scanned {args.maxDevices.toNat})")

end LoopDevice

/-- Attaches the image of a request. -/
def LoopArgs.perform (args : LoopArgs) : Operation LoopReply := do
  let source ← Operation.ofResult (ImageSource.ofReference args.image)
  let image ← source.openImage args.mode
  let gid ← Operation.ask .diskGroup
  let index ← FsIdentity.within ⟨0, gid⟩ (LoopDevice.attach args image source.name)
  return ⟨UInt32.ofNat index⟩

end ContainerConstruction
