import ContainerConstruction.Host.Execution
import ContainerConstruction.Kernel.Interface
import ContainerConstruction.Operation.Mount

/-!
# The kernel of a host

How a host answers the calls of its threads.  Without capabilities nothing can be mounted, no root can be
changed, no namespace entered or created, and no device node made: such a call is refused, once what it
names has been looked up.
-/

namespace ContainerConstruction

namespace Host

def diskGroup : UInt32 := 6

def searchPath : String := shownPath (home ++ ["bin"])

/-- Changes the host, unless that fails. -/
def settle (host : Host) : Except Errno Host → Except Errno Unit × Host
  | .ok changed => (.ok (), changed)
  | .error errno => (.error errno, host)

/-- Refuses a call, if there is nothing else wrong with it. -/
def refuse {α : Type} (checked : Except Errno α) : Except Errno Unit :=
  checked.bind fun _ ↦ .error .notPermitted

/-! ## Identity and place -/

def setFsUid (actor : Actor) (id : UInt32) (host : Host) : UInt32 × Host :=
  let identity := host.identityOf actor
  (identity.user.filesystem,
    host.withIdentity actor { identity with user := identity.user.setFilesystem identity.mayChange id })

def setFsGid (actor : Actor) (id : UInt32) (host : Host) : UInt32 × Host :=
  let identity := host.identityOf actor
  (identity.group.filesystem,
    host.withIdentity actor { identity with group := identity.group.setFilesystem identity.mayChange id })

/-- Sets the bits that new files do not get. -/
def setMask (actor : Actor) (mask : UInt32) (host : Host) : UInt32 × Host :=
  let place := host.placeOf actor
  (place.mask, host.withPlace actor { place with mask := mask &&& 0o777 })

def changeDirectory (actor : Actor) (path : String) (host : Host) : Except Errno Unit × Host :=
  host.settle ((host.enterable (host.accessor actor) path).map fun directory ↦
    host.withPlace actor { host.placeOf actor with directory := directory })

/-- Gives a thread new namespaces, or just a place of its own. -/
def unshare (actor : Actor) (flags : UInt32) (host : Host) : Except Errno Unit × Host :=
  if flags &&& ~~~0x200 ≠ 0 then (.error .notPermitted, host)
  else
    match actor with
    | .worker => (.ok (), { host with workerPlace := some (host.placeOf .worker) })
    | .server => (.ok (), host)

/-! ## Descriptors -/

def addDescriptor (path : TreePath) (host : Host) : Descriptor × Host :=
  let number := host.descriptors.foldl (fun highest (number, _) ↦ max highest (number + 1)) 0
  (⟨number⟩, { host with descriptors := (number, path) :: host.descriptors })

def fileOf? (descriptor : Descriptor) (host : Host) : Option TreePath :=
  host.descriptors.lookup descriptor.number

/-- Opens a file for a thread. -/
def openFor (actor : Actor) (mode : OpenMode) (path : String) (host : Host) :
    Except IoCause Descriptor × Host :=
  if Path.hasNul path then (.error .nulInFileName, host)
  else
    match host.openPath (host.accessor actor) mode path with
    | .error errno => (.error (.errno errno), host)
    | .ok (found, host) =>
      let (descriptor, host) := host.addDescriptor found
      (.ok descriptor, host)

/-- Asks a device about something that only a loop device knows. -/
def askDevice {α : Type} (device : Descriptor) (host : Host) : Except Errno α :=
  match host.fileOf? device with
  | some _ => .error .notTerminal
  | none => .error .badDescriptor

/-- The numbers of an open file. -/
def identifyFile (file : Descriptor) (host : Host) : Except IoCause FileIdentity :=
  match host.fileOf? file with
  | some path => .ok ⟨0, UInt64.ofNat ((host.tree.nodes.findIdx? (·.1 = path)).getD 0)⟩
  | none => .error (.errno .badDescriptor)

/-! ## Namespaces and mounts -/

/-- Opens the file of a namespace, which a thread of this process has and a process that is there. -/
def openNamespace (path : String) (host : Host) : Except IoCause Descriptor × Host :=
  if path = "/proc/thread-self/ns/ipc" || path = s!"/proc/{host.pid}/ns/ipc" then
    let (descriptor, host) := host.addDescriptor (Path.components path)
    (.ok descriptor, host)
  else (.error (.errno .noEntry), host)

/-- The bits that no mount may have. -/
def noUserFlag : UInt64 := 0xffffffff80000000

/-- The flags of a mount without the number that callers once had to put above them. -/
def withoutMagic (flags : UInt64) : UInt64 :=
  if flags &&& 0xffff0000 = 0xc0ed0000 then flags &&& 0xffff else flags

/-- Looks a mount's target up and refuses the mount. -/
def mount (actor : Actor) (texts : List String) (target : String) (flags : UInt64) (host : Host) :
    Except Errno Unit :=
  let who := host.accessor actor
  if texts.any Path.hasNul || Path.hasNul target then .error .invalid
  else
    match Lookup.find host.tree who.identity who.place.directory true target with
    | .error errno => .error errno
    | .ok _ =>
      if withoutMagic flags &&& noUserFlag ≠ 0 then .error .invalid else .error .notPermitted

def pathExists (actor : Actor) (path : String) (host : Host) : Bool :=
  let who := host.accessor actor
  !Path.hasNul path &&
    (Lookup.find host.tree who.identity who.place.directory true path).toOption.isSome

/-- Looks a new node's path up and refuses the node. -/
def makeNode (actor : Actor) (path : String) (host : Host) : Except Errno Unit :=
  refuse ((host.create (host.accessor actor) path 0 .sink))

/-! ## Programs -/

/-- Finds a program of the runtime. -/
def locateProgram (actor : Actor) (name : String) (host : Host) : Except String String :=
  let who := host.accessor actor
  let path := Path.join searchPath name
  match Lookup.find host.tree who.identity who.place.directory true path with
  | .ok (_, node) =>
    if permits who .enter node && !node.isDirectory then .ok path
    else .error "cannot find binary path"
  | .error _ => .error "cannot find binary path"

/-- Runs a program of the runtime to its end. -/
def runTool (actor : Actor) (program : String) (arguments : List String) (input : List UInt8)
    (host : Host) : Except ToolFailure ToolResult × Host :=
  let who := host.accessor actor
  if Path.hasNul program || arguments.any Path.hasNul then (.error (.start .nulInData), host)
  else
    match ProgramImage.ofFile who host program program arguments with
    | .error errno => (.error (.start (.errno errno)), host)
    | .ok image =>
      let task : Task :=
        ⟨who, Task.usualStreams, [("PATH", searchPath)], Execution.childPid⟩
      let ended := Execution.run ⟨image, task⟩ false (World.ofHost host input .endless)
      match ended.ending.exitStatus? with
      | some status => (.ok ⟨status, ended.world.queue World.errorQueue⟩, ended.world.host)
      | none => (.error (.wait (.errno .interrupted)), ended.world.host)

/-! ## Calls -/

def unchanged {α : Type} (answer : α) (host : Host) : α × Host := (answer, host)

/-- Answers a call of a thread. -/
def answer (actor : Actor) (call : KernelCall) (host : Host) : call.Answer × Host :=
  match call with
  | .setFsUid id => host.setFsUid actor id
  | .setFsGid id => host.setFsGid actor id
  | .diskGroup => unchanged diskGroup host
  | .setUmask mask => host.setMask actor mask
  | .makeDirectory path mode =>
    host.settle (host.makeDirectory (host.accessor actor) path mode)
  | .changeDirectory path => host.changeDirectory actor path
  | .changeDirectoryTo directory =>
    match host.fileOf? directory with
    | some path => (.ok (), host.withPlace actor { host.placeOf actor with directory := path })
    | none => (.error .badDescriptor, host)
  | .changeRoot path => unchanged (refuse (host.enterable (host.accessor actor) path)) host
  | .pivotRoot .. => unchanged (.error .notPermitted) host
  | .workingDirectory => unchanged (some (shownPath (host.placeOf actor).directory)) host
  | .openDirectory path => host.openFor actor { OpenMode.reading with onlyDirectory := true } path
  | .mount source target filesystem flags data =>
    unchanged (host.mount actor (source.toList ++ filesystem.toList ++ data.toList) target flags) host
  | .detachMount _ => unchanged (.error .notPermitted) host
  | .setHostname _ => unchanged (.error .notPermitted) host
  | .unshare flags => host.unshare actor flags
  | .openNamespace path => host.openNamespace path
  | .joinIpc _ => unchanged (.error .notPermitted) host
  | .checkDescriptor descriptor =>
    unchanged (if (host.fileOf? descriptor).isSome then .ok () else .error .badDescriptor) host
  | .openImage path writable flags =>
    host.openFor actor (.ofFlags writable flags.toUInt32) path
  | .pathExists path => unchanged (host.pathExists actor path) host
  | .makeBlockNode path .. => unchanged (host.makeNode actor path) host
  | .openDevice path writable =>
    host.openFor actor (if writable then .readingAndWriting else .reading) path
  | .identifyFile file => unchanged (host.identifyFile file) host
  | .loopStatus device => unchanged (host.askDevice device) host
  | .bindLoop device _ => unchanged (host.askDevice device) host
  | .configureLoop device _ => unchanged (host.askDevice device) host
  | .unbindLoop device => unchanged (host.askDevice device) host
  | .locateProgram name => unchanged (host.locateProgram actor name) host
  | .freshName => host.freshName
  | .runTool program arguments input => host.runTool actor program arguments input
  | .beginThread => unchanged (.ok ()) host
  | .endThread => unchanged () host

/-- The kernel as a thread meets it. -/
def kernel (actor : Actor) : Machine Kernel Host := ⟨answer actor⟩

end Host

end ContainerConstruction
