import ContainerConstruction.Host.Lookup
import ContainerConstruction.Text.Utf8

/-!
# A host

The machine that containers are constructed on, as far as constructing one shows: its files, and two
threads of the runtime.  One thread is the worker that carries out privileged operations; the other
stands for all threads that serve requests.  Each has a filesystem identity, and both share a working
directory until the worker is given one of its own.

The process is the superuser, but has none of the capabilities.  It passes for the owner of the files
of user zero and for nobody else, and the kernel refuses whatever takes a capability.
-/

namespace ContainerConstruction

/-- A thread of the runtime. -/
inductive Actor where
  | worker
  | server
  deriving DecidableEq, Repr

/-- Where a thread is, and which mode bits it withholds from new files. -/
structure Place where
  directory : TreePath
  mask : UInt32
  deriving DecidableEq, Repr

/-- The user ids or the group ids of a thread. -/
structure ThreadIds where
  real : UInt32
  effective : UInt32
  saved : UInt32
  filesystem : UInt32
  deriving DecidableEq, Repr

namespace ThreadIds

def root : ThreadIds := ⟨0, 0, 0, 0⟩

/-- Whether an id is one of the thread's own. -/
def owns (id : UInt32) (ids : ThreadIds) : Bool :=
  id = ids.real || id = ids.effective || id = ids.saved || id = ids.filesystem

/-- Asks for a filesystem id, which is granted silently or not at all. -/
def setFilesystem (mayChange : Bool) (id : UInt32) (ids : ThreadIds) : ThreadIds :=
  if id ≠ FsIdentity.noId && (mayChange || ids.owns id) then { ids with filesystem := id } else ids

end ThreadIds

/-- A thread's ids, and whether it may take on ids that are not its own. -/
structure ThreadIdentity where
  user : ThreadIds
  group : ThreadIds
  mayChange : Bool
  deriving DecidableEq, Repr

namespace ThreadIdentity

/-- The superuser without any capability. -/
def powerlessRoot : ThreadIdentity := ⟨.root, .root, false⟩

/-- Who the thread is to the file system. -/
def filesystem (identity : ThreadIdentity) : FsIdentity :=
  ⟨identity.user.filesystem, identity.group.filesystem⟩

/-- Sets all user ids of the thread, the filesystem one included.  The id that stands for none leaves the
others as they are.  Gives whether that was granted. -/
def setUser (id : UInt32) (identity : ThreadIdentity) : Bool × ThreadIdentity :=
  let user := identity.user
  let owns := id = user.real || id = user.effective || id = user.saved
  if id = FsIdentity.noId then
    (true, { identity with user := { user with filesystem := user.effective } })
  else if identity.mayChange || owns then
    (true, { identity with
      user := ⟨id, id, id, id⟩
      mayChange := identity.mayChange && (id = 0) })
  else (false, identity)

end ThreadIdentity

/-- A host. -/
structure Host where
  tree : FileTree
  /-- The place of all threads that have none of their own. -/
  place : Place
  /-- The place of the worker, once it has one of its own. -/
  workerPlace : Option Place
  worker : ThreadIdentity
  server : ThreadIdentity
  hostname : String
  /-- The id of the runtime's process. -/
  pid : Nat
  /-- The files behind the descriptors of the runtime. -/
  descriptors : List (Nat × TreePath)
  /-- How many names have been made up. -/
  names : Nat
  /-- Why the system gives out no socket, if it gives out none: it or the process has no descriptor left, or
  there is no memory for one. -/
  socketRefusal : Option Errno
  deriving Repr

namespace Host

/-! ## Threads -/

def placeOf (actor : Actor) (host : Host) : Place :=
  match actor with
  | .worker => host.workerPlace.getD host.place
  | .server => host.place

/-- Puts a thread at a place, and those that share it too. -/
def withPlace (actor : Actor) (place : Place) (host : Host) : Host :=
  match actor, host.workerPlace with
  | .worker, some _ => { host with workerPlace := some place }
  | _, _ => { host with place }

def identityOf (actor : Actor) (host : Host) : ThreadIdentity :=
  match actor with
  | .worker => host.worker
  | .server => host.server

def withIdentity (actor : Actor) (identity : ThreadIdentity) (host : Host) : Host :=
  match actor with
  | .worker => { host with worker := identity }
  | .server => { host with server := identity }

/-- Whoever accesses a file: an identity at a place. -/
structure Accessor where
  identity : FsIdentity
  place : Place
  deriving DecidableEq, Repr

def accessor (actor : Actor) (host : Host) : Accessor :=
  ⟨(host.identityOf actor).filesystem, host.placeOf actor⟩

/-! ## The tree to begin with -/

/-- An owner that is user zero. -/
def owned (mode : UInt32) : Access := ⟨mode, 0, 0⟩

/-- The tools of the host. -/
def tools : List String :=
  ["sh", "true", "false", "echo", "cat", "pwd", "env", "printenv", "id", "touch", "sleep", "mkdir", "rm",
    "rmdir", "chmod", "ln", "cp", "mv", "ls", "wc", "sort", "head", "seq", "basename", "dirname"]

/-- Where the runtime is started. -/
def home : TreePath := ["srv", "container-construction"]

/-- The files of a host, with nothing in the directory that the runtime is started in. -/
def initialTree : FileTree :=
  ⟨[([], ⟨owned 0o755, .directory⟩), (["usr"], ⟨owned 0o755, .directory⟩),
    (["usr", "bin"], ⟨owned 0o755, .directory⟩), (["bin"], ⟨owned 0o777, .link "usr/bin"⟩),
    (["dev"], ⟨owned 0o755, .directory⟩), (["dev", "null"], ⟨owned 0o666, .sink⟩),
    (["etc"], ⟨owned 0o755, .directory⟩), (["proc"], ⟨owned 0o555, .directory⟩),
    (["tmp"], ⟨owned 0o1777, .directory⟩), (["srv"], ⟨owned 0o755, .directory⟩),
    (home, ⟨owned 0o755, .directory⟩)] ++
    tools.map fun name ↦ (["usr", "bin", name], ⟨owned 0o755, .tool name⟩)⟩

/-- A host on which nothing has happened. -/
def initial : Host where
  tree := initialTree
  place := ⟨home, 0o022⟩
  workerPlace := none
  worker := .powerlessRoot
  server := .powerlessRoot
  hostname := "localhost"
  pid := 2
  descriptors := [(0, ["dev", "null"]), (1, ["dev", "null"]), (2, ["dev", "null"])]
  names := 0
  socketRefusal := none

def shownPath (path : TreePath) : String := "/" ++ "/".intercalate path

/-- A name that has not been made up before: 32 hexadecimal digits. -/
def freshName (host : Host) : String × Host :=
  let digits := Nat.toDigits 16 host.names
  (String.ofList (List.replicate (32 - digits.length) '0' ++ digits),
    { host with names := host.names + 1 })

end Host

end ContainerConstruction
