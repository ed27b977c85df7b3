import ContainerConstruction.Host.Files

/-!
# Provisioning a host

Entries are put on a host one after the other, each with the directories it needs above it.  Directories
that are there already are left as they are.  `FileTree.listing` is the view of what came of it: all
nodes below a directory, in the order of their paths.
-/

namespace ContainerConstruction

/-! ## Putting things on a host -/

/-- What is put at a path. -/
inductive Provision where
  | file (content : List UInt8)
  | directory
  | link (target : String)
  /-- A socket on which nobody listens. -/
  | socket
  deriving DecidableEq, Repr

/-- Something to put at a path, with the permissions it gets in place of the usual ones. -/
structure ProvisionEntry where
  path : String
  provision : Provision
  mode : Option UInt32
  deriving DecidableEq, Repr

namespace Host

/-- The permissions of a new directory before the mask. -/
def usualDirectoryMode : UInt32 := 0o777

/-- The beginnings of a path that end before a slash or at the end, shortest first. -/
def ancestry (path : String) : List String :=
  let root := if Path.isAbsolute path then "/" else ""
  let names := Path.components path
  (List.range names.length).map fun last ↦ root ++ "/".intercalate (names.take (last + 1))

/-- Makes a directory unless there is one. -/
def ensureDirectory (who : Accessor) (host : Host) (path : String) : Except Errno Host :=
  match host.makeDirectory who path usualDirectoryMode with
  | .ok host => .ok host
  | .error errno =>
    match Lookup.find host.tree who.identity who.place.directory true path with
    | .ok (_, node) => if node.isDirectory then .ok host else .error errno
    | .error _ => .error errno

/-- Makes all directories of a path that are missing. -/
def ensureDirectories (who : Accessor) (path : String) (host : Host) : Except Errno Host :=
  (ancestry path).foldlM (ensureDirectory who) host

def changeMode (who : Accessor) (path : String) (mode : UInt32) (host : Host) : Except Errno Host := do
  if Path.hasNul path then throw .invalid
  let (found, node) ← Lookup.find host.tree who.identity who.place.directory true path
  if node.access.uid ≠ who.identity.uid then throw .notPermitted
  let access := { node.access with mode := mode &&& 0o7777 }
  return { host with tree := host.tree.put found { node with access := access } }

def above (path : String) : String := (ancestry path).dropLast.getLast?.getD ""

/-- Puts something at a path. -/
def placeEntry (who : Accessor) (path : String) (provision : Provision) (host : Host) :
    Except IoCause Host :=
  match provision with
  | .directory => (host.ensureDirectories who path).mapError .errno
  | .socket => host.bindFile who path
  | .link target => (host.create who path 0o777 (.link target)).mapError .errno
  | .file content =>
    match host.openPath who .replacing path with
    | .ok (found, host) => .ok (host.appendAt found content)
    | .error errno => .error (.errno errno)

def provide (who : Accessor) (host : Host) (entry : ProvisionEntry) : Except IoCause Host := do
  let host ← (host.ensureDirectories who (above entry.path)).mapError .errno
  let host ← host.placeEntry who entry.path entry.provision
  match entry.mode with
  | none => return host
  | some mode => (host.changeMode who entry.path mode).mapError .errno

def provideAll (entries : List ProvisionEntry) (host : Host) : Except IoCause Host :=
  entries.foldlM (provide (host.accessor .server)) host

end Host

/-! ## Looking at a host -/

namespace FileTree

/-- The text of a path below a directory. -/
def pathText (path : TreePath) : String := "/".intercalate path

/-- Whether the text of a path comes no later than another one.  Texts are ordered by their code points,
which orders their bytes as well. -/
def isListedFirst (first second : String × Node) : Bool := first.1 ≤ second.1

/-- All nodes below a directory with their paths, in the order of the paths. -/
def listing (base : TreePath) (tree : FileTree) : List (String × Node) :=
  ((tree.below base).map fun (path, node) ↦ (pathText path, node)).mergeSort isListedFirst

end FileTree

end ContainerConstruction
