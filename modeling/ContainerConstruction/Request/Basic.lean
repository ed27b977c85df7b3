/-!
# Privileged requests

A container is constructed by a sequence of privileged operations.  A `Request` names one of the eight
operations together with its arguments, and a `Reply` is what a successful one gives back.  Paths are
texts here; what they name is settled when an operation is carried out.
-/

namespace ContainerConstruction

/-! ## Arguments -/

/-- A mount: empty texts stand for absent ones, and `options` name flags that are added to `flags`. -/
structure MountArgs where
  source : String
  target : String
  filesystem : String
  flags : UInt64
  data : String
  options : List String
  deriving DecidableEq, Repr

/-- How the root directory is exchanged. -/
inductive RootMethod where
  /-- The old root is put beneath the new one and then detached. -/
  | pivot
  /-- The new root is moved onto `/` and entered. -/
  | move
  /-- The new root is entered; mounts stay as they are. -/
  | chroot
  deriving DecidableEq, Repr

/-- A new root directory; `.` is the working directory. -/
structure ChrootArgs where
  root : String
  method : RootMethod
  deriving DecidableEq, Repr

/-- What a loop device makes visible of its image. -/
structure LoopInfo where
  offset : UInt64
  /-- The largest number of bytes, or zero for all of them. -/
  sizeLimit : UInt64
  autoclear : Bool
  readOnly : Bool
  deriving DecidableEq, Repr

namespace LoopInfo

/-- The whole image, writable and attached until it is detached. -/
def whole : LoopInfo := ⟨0, 0, false, false⟩

end LoopInfo

/-- An image to attach to one of the first `maxDevices` loop devices. -/
structure LoopArgs where
  image : String
  /-- The flags the image and the device are opened with. -/
  mode : Int32
  maxDevices : UInt32
  /-- Whether a device that holds the same image may be used again. -/
  shared : Bool
  info : LoopInfo
  deriving DecidableEq, Repr

/-- An encrypted device and the key that opens it. -/
structure CryptArgs where
  key : List UInt8
  loopDevice : String
  /-- The process in whose IPC namespace the device is opened, if positive. -/
  masterPid : Int32
  deriving DecidableEq, Repr

structure MkdirArgs where
  path : String
  mode : UInt32
  deriving DecidableEq, Repr

structure HostnameArgs where
  hostname : String
  deriving DecidableEq, Repr

structure SetFsIdArgs where
  uid : UInt32
  gid : UInt32
  deriving DecidableEq, Repr

structure ChdirArgs where
  dir : String
  deriving DecidableEq, Repr

/-! ## Requests and replies -/

/-- One privileged operation. -/
inductive Request where
  | mount (args : MountArgs)
  | decrypt (args : CryptArgs)
  | mkdir (args : MkdirArgs)
  | chroot (args : ChrootArgs)
  | loopDevice (args : LoopArgs)
  | setHostname (args : HostnameArgs)
  | setFsId (args : SetFsIdArgs)
  | chdir (args : ChdirArgs)
  deriving DecidableEq, Repr

namespace Request

def method : Request → String
  | .mount _ => "Mount"
  | .decrypt _ => "Decrypt"
  | .mkdir _ => "Mkdir"
  | .chroot _ => "Chroot"
  | .loopDevice _ => "LoopDevice"
  | .setHostname _ => "SetHostname"
  | .setFsId _ => "SetFsId"
  | .chdir _ => "Chdir"

/-- Whether the operation opens an encrypted device. -/
def isDecrypt : Request → Bool
  | .decrypt _ => true
  | _ => false

end Request

/-- The path of an opened device. -/
structure CryptReply where
  device : String
  deriving DecidableEq, Repr

/-- The number of the loop device an image is attached to. -/
structure LoopReply where
  index : UInt32
  deriving DecidableEq, Repr

/-- What a successful operation gives back. -/
inductive Reply where
  | unit
  | crypt (reply : CryptReply)
  | loop (reply : LoopReply)
  deriving DecidableEq, Repr

end ContainerConstruction
