import ContainerConstruction.Failure
import ContainerConstruction.Program
import ContainerConstruction.Process.Status

/-!
# Calls to the kernel

All that a privileged operation does to the machine, it does through the calls of `Kernel`.  An answer
is what the kernel gives back; nothing is assumed about it here.  Paths and names are handed over as
they are, and what is wrong with them comes back as an error.

The calls belong to the thread that runs the program.  `beginThread` hands the program over to a thread
of its own until `endThread`.
-/

namespace ContainerConstruction

structure Descriptor where
  number : Nat
  deriving DecidableEq, Repr

/-- What tells two files apart. -/
structure FileIdentity where
  device : UInt64
  inode : UInt64
  deriving DecidableEq, Repr

/-- What a loop device is told about its image. -/
structure LoopSetup where
  offset : UInt64
  sizeLimit : UInt64
  readOnly : Bool
  autoclear : Bool
  /-- The first bytes of the image's name. -/
  name : List UInt8
  deriving DecidableEq, Repr

/-- What a loop device says about its image. -/
structure LoopStatus where
  image : FileIdentity
  offset : UInt64
  sizeLimit : UInt64
  readOnly : Bool
  deriving DecidableEq, Repr

/-- How a tool ended, and what it wrote about it. -/
structure ToolResult where
  status : ExitStatus
  errors : List UInt8
  deriving DecidableEq, Repr

/-- Why there is no result of a tool. -/
inductive ToolFailure where
  | start (cause : IoCause)
  | wait (cause : IoCause)
  deriving DecidableEq, Repr

/-- A question to the kernel. -/
inductive KernelCall where
  /-- Asks for a filesystem user id; gives the one before. -/
  | setFsUid (id : UInt32)
  /-- Asks for a filesystem group id; gives the one before. -/
  | setFsGid (id : UInt32)
  /-- The group that owns the disks, looked up once and zero if there is none. -/
  | diskGroup
  /-- Sets the bits that new files do not get; gives those before. -/
  | setUmask (mode : UInt32)
  | makeDirectory (path : String) (mode : UInt32)
  | changeDirectory (path : String)
  | changeDirectoryTo (directory : Descriptor)
  | changeRoot (path : String)
  | pivotRoot (newRoot oldRoot : String)
  /-- The path of the working directory, if it has one. -/
  | workingDirectory
  | openDirectory (path : String)
  | mount (source : Option String) (target : String) (filesystem : Option String) (flags : UInt64)
    (data : Option String)
  /-- Takes a mount away as soon as nobody uses it. -/
  | detachMount (target : String)
  | setHostname (name : String)
  /-- Gives the thread namespaces of its own. -/
  | unshare (flags : UInt32)
  | openNamespace (path : String)
  /-- Makes the thread a member of an IPC namespace. -/
  | joinIpc (namespaceFile : Descriptor)
  /-- Asks for nothing but whether a descriptor is open. -/
  | checkDescriptor (descriptor : Descriptor)
  | openImage (path : String) (writable : Bool) (flags : Int32)
  | pathExists (path : String)
  | makeBlockNode (path : String) (mode : UInt32) (major minor : UInt64)
  | openDevice (path : String) (writable : Bool)
  | identifyFile (file : Descriptor)
  | loopStatus (device : Descriptor)
  | bindLoop (device image : Descriptor)
  | configureLoop (device : Descriptor) (setup : LoopSetup)
  | unbindLoop (device : Descriptor)
  /-- The path of a program on the search path. -/
  | locateProgram (name : String)
  /-- A random name of 32 hexadecimal digits. -/
  | freshName
  /-- Runs a program to its end with the given input. -/
  | runTool (program : String) (arguments : List String) (input : List UInt8)
  | beginThread
  | endThread
  deriving DecidableEq, Repr

namespace KernelCall

/-- The form of the answer to a call. -/
abbrev Answer : KernelCall → Type
  | setFsUid _ => UInt32
  | setFsGid _ => UInt32
  | diskGroup => UInt32
  | setUmask _ => UInt32
  | makeDirectory .. => Except Errno Unit
  | changeDirectory _ => Except Errno Unit
  | changeDirectoryTo _ => Except Errno Unit
  | changeRoot _ => Except Errno Unit
  | pivotRoot .. => Except Errno Unit
  | workingDirectory => Option String
  | openDirectory _ => Except IoCause Descriptor
  | mount .. => Except Errno Unit
  | detachMount _ => Except Errno Unit
  | setHostname _ => Except Errno Unit
  | unshare _ => Except Errno Unit
  | openNamespace _ => Except IoCause Descriptor
  | joinIpc _ => Except Errno Unit
  | checkDescriptor _ => Except Errno Unit
  | openImage .. => Except IoCause Descriptor
  | pathExists _ => Bool
  | makeBlockNode .. => Except Errno Unit
  | openDevice .. => Except IoCause Descriptor
  | identifyFile _ => Except IoCause FileIdentity
  | loopStatus _ => Except Errno LoopStatus
  | bindLoop .. => Except Errno Unit
  | configureLoop .. => Except Errno Unit
  | unbindLoop _ => Except Errno Unit
  | locateProgram _ => Except String String
  | freshName => String
  | runTool .. => Except ToolFailure ToolResult
  | beginThread => Except IoCause Unit
  | endThread => Unit

end KernelCall

abbrev Kernel : Interface := ⟨KernelCall, KernelCall.Answer⟩

/-- A program on the kernel that may fail. -/
abbrev Operation (α : Type) : Type := ExceptT Failure (Program Kernel) α

namespace Operation

/-- A call whose answer is taken as it is. -/
def ask (call : KernelCall) : Operation call.Answer := ExceptT.lift (Program.ask (I := Kernel) call)

/-- Turns the error of an answer into a failure. -/
def check {ε α : Type} (describe : ε → Failure) (answer : Except ε α) : Operation α :=
  match answer with
  | .ok value => pure value
  | .error error => throw (describe error)

/-- The result of a program, as a result of the program around it. -/
def ofResult {α : Type} (result : Except Failure α) : Operation α :=
  match result with
  | .ok value => pure value
  | .error failure => throw failure

end Operation

end ContainerConstruction
