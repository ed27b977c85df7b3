import ContainerConstruction.Failure
import ContainerConstruction.Host.Basic

/-!
# Files of a host

Creating, opening, reading and removing files, each as somebody with an identity at a place.  An error is
the number that the kernel gives; the errors that are found before the kernel is asked are those of
`readText`.
-/

namespace ContainerConstruction

namespace Host

open Lookup

/-! ## Changing directories -/

def permits (who : Accessor) (wish : Wish) (node : Node) : Bool := node.access.grants who.identity wish

/-- Makes sure that new names may be put into a directory. -/
def checkChangeable (who : Accessor) (directory : TreePath) (host : Host) : Except Errno Node :=
  match host.tree.node? directory with
  | none => .error .noEntry
  | some node =>
    if permits who .write node && permits who .enter node then .ok node else .error .accessDenied

/-- The bit of a directory that hands its group on. -/
def setGidBit : UInt32 := 0o2000

/-- The bits of a new directory's mode that the kernel takes over. -/
def directoryModeBits : UInt32 := 0o1777

/-- The access of something new in a directory. -/
def newAccess (who : Accessor) (parent : Node) (mode : UInt32) : Access :=
  let gid := if parent.access.mode &&& setGidBit ≠ 0 then parent.access.gid else who.identity.gid
  ⟨mode &&& ~~~who.place.mask, who.identity.uid, gid⟩

def makeDirectory (who : Accessor) (path : String) (mode : UInt32) (host : Host) :
    Except Errno Host := do
  if Path.hasNul path then throw .invalid
  let (parent, name) ← vacancy host.tree who.identity who.place.directory path
  let directory ← checkChangeable who parent host
  let access := newAccess who directory (mode &&& directoryModeBits)
  let inherited := directory.access.mode &&& setGidBit
  let node : Node := ⟨{ access with mode := access.mode ||| inherited }, .directory⟩
  return { host with tree := host.tree.put (parent ++ [name]) node }

/-- Puts something that is no directory at a free path. -/
def create (who : Accessor) (path : String) (mode : UInt32) (kind : NodeKind) (host : Host) :
    Except Errno Host := do
  if Path.hasNul path then throw .invalid
  let (parent, name) ← vacancy host.tree who.identity who.place.directory path
  if Path.endsInSlash path then throw .noEntry
  let directory ← checkChangeable who parent host
  return { host with tree := host.tree.put (parent ++ [name]) ⟨newAccess who directory mode, kind⟩ }

/-- The directory that a path leads to, if it may be entered. -/
def enterable (who : Accessor) (path : String) (host : Host) : Except Errno TreePath := do
  if Path.hasNul path then throw .invalid
  let (found, node) ← find host.tree who.identity who.place.directory true path
  if !node.isDirectory then throw .notDirectory
  if !permits who .enter node then throw .accessDenied
  return found

/-! ## Opening -/

/-- How a file is opened. -/
structure OpenMode where
  reads : Bool
  writes : Bool
  /-- Whether a file that is absent is created. -/
  creates : Bool
  /-- Whether a file that is there is in the way. -/
  exclusive : Bool
  /-- Whether what the file held is dropped. -/
  truncates : Bool
  /-- Whether only a directory will do. -/
  onlyDirectory : Bool
  /-- Whether a link at the end is followed. -/
  follows : Bool
  /-- Whether the file is only pointed at, so that it need not be open to anybody. -/
  onlyPoints : Bool
  deriving DecidableEq, Repr

namespace OpenMode

def reading : OpenMode := ⟨true, false, false, false, false, false, true, false⟩

def readingAndWriting : OpenMode := { reading with writes := true }

def replacing : OpenMode := ⟨false, true, true, false, true, false, true, false⟩

def extending : OpenMode := ⟨false, true, true, false, false, false, true, false⟩

/-- The mode of flags as the kernel takes them.  Whoever only points at a file can do nothing to it. -/
def ofFlags (writes : Bool) (flags : UInt32) : OpenMode :=
  let onlyDirectory := flags &&& 0o200000 ≠ 0
  let follows := flags &&& 0o400000 = 0
  if flags &&& 0o10000000 ≠ 0 then ⟨false, false, false, false, false, onlyDirectory, follows, true⟩
  else
    ⟨true, writes, flags &&& 0o100 ≠ 0, flags &&& 0o200 ≠ 0, flags &&& 0o1000 ≠ 0, onlyDirectory, follows,
      false⟩

end OpenMode

/-- Opens a node that is there. -/
def openPresent (who : Accessor) (mode : OpenMode) (path : TreePath) (host : Host) :
    Except Errno (TreePath × Host) := do
  match host.tree.node? path with
  | none => throw .noEntry
  | some node =>
    if mode.onlyPoints then
      if mode.onlyDirectory && !node.isDirectory then throw .notDirectory else return (path, host)
    match node.kind with
    | .link _ => throw (if mode.onlyDirectory then .notDirectory else .tooManyLinks)
    | .directory =>
      if mode.writes || mode.truncates || mode.creates then throw .isDirectory
      if !permits who .read node then throw .accessDenied
      return (path, host)
    | kind =>
      if mode.onlyDirectory then throw .notDirectory
      if (mode.reads && !permits who .read node) || (mode.writes && !permits who .write node) ||
          (mode.truncates && !permits who .write node) then
        throw .accessDenied
      match kind with
      | .socket => throw .noDeviceAddress
      | .tool _ => if mode.writes then throw .textBusy else return (path, host)
      | .file _ =>
        if mode.truncates then
          return (path, { host with tree := host.tree.put path { node with kind := .file [] } })
        else return (path, host)
      | _ => return (path, host)

/-- Opens a path.  A file that may have to be created cannot be asked for with a slash behind its name,
and one that has to be new is not looked for behind a link. -/
def openPath (who : Accessor) (mode : OpenMode) (path : String) (host : Host) :
    Except Errno (TreePath × Host) := do
  if Path.hasNul path || (mode.creates && mode.onlyDirectory) then throw .invalid
  if mode.creates && Path.endsInSlash path && Path.endsInName path then
    let _ ← locate host.tree who.identity who.place.directory false (withoutFinalSlashes path)
    throw .isDirectory
  let follows := mode.follows && !(mode.creates && mode.exclusive)
  match ← locate host.tree who.identity who.place.directory follows path with
  | .present found =>
    if mode.creates && mode.exclusive then throw .fileExists
    openPresent who mode found host
  | .free parent name =>
    if !mode.creates then throw .noEntry
    let directory ← checkChangeable who parent host
    let node : Node := ⟨newAccess who directory 0o666, .file []⟩
    return (parent ++ [name], { host with tree := host.tree.put (parent ++ [name]) node })

/-! ## Content -/

def contentAt (path : TreePath) (host : Host) : Except Errno (List UInt8) :=
  match host.tree.node? path with
  | none => .error .noEntry
  | some node =>
    match node.kind with
    | .file content => .ok content
    | .directory => .error .isDirectory
    | _ => .ok []

def appendAt (path : TreePath) (bytes : List UInt8) (host : Host) : Host :=
  match host.tree.node? path with
  | none => host
  | some node =>
    match node.kind with
    | .file content => { host with tree := host.tree.put path { node with kind := .file (content ++ bytes) } }
    | _ => host

def readBytes (who : Accessor) (path : String) (host : Host) : Except Errno (List UInt8) := do
  let (found, _) ← openPath who .reading path host
  host.contentAt found

def readText (who : Accessor) (host : Host) (path : String) : Except IoCause String :=
  if Path.hasNul path then .error .nulInFileName
  else
    match host.readBytes who path with
    | .error errno => .error (.errno errno)
    | .ok bytes =>
      match Text.Utf8.toText? bytes with
      | some text => .ok text
      | none => .error .notUtf8

/-- Reads a file as the threads that serve requests see it. -/
def textReader (host : Host) : ReadText := host.readText (host.accessor .server)

/-! ## Sockets -/

/-- The most bytes of a socket's path. -/
def maximalSocketPath : Nat := 107

/-- Binds a socket to a path.  The path is looked at before there is a socket, and the files only after. -/
def bindFile (who : Accessor) (path : String) (host : Host) : Except IoCause Host :=
  if Path.hasNul path then .error (.text "paths must not contain interior null bytes")
  else if maximalSocketPath < path.utf8ByteSize then .error .socketPathTooLong
  else
    match host.socketRefusal with
    | some errno => .error (.errno errno)
    | none =>
      match host.create who path 0o777 .socket with
      | .ok host => .ok host
      | .error errno => .error (.errno (if errno = .fileExists then .addressInUse else errno))

/-- Binds a socket to a path, or to a name that is no file. -/
def bindSocket (who : Accessor) (path : String) (host : Host) : Except IoCause Host :=
  if !Path.isAbstract path then host.bindFile who path
  else if maximalSocketPath + 1 < path.utf8ByteSize then
    .error (.text "abstract socket name must be shorter than SUN_LEN")
  else
    match host.socketRefusal with
    | some errno => .error (.errno errno)
    | none => .ok host

/-! ## Removal -/

/-- Whether a directory lets only owners remove what it holds. -/
def stickyBit : UInt32 := 0o1000

/-- Removes what a path leads to, unless it is a directory. -/
def removeFile (who : Accessor) (path : String) (host : Host) : Except Errno Host := do
  if Path.hasNul path then throw .invalid
  let (found, node) ← find host.tree who.identity who.place.directory false path
  let directory ← checkChangeable who (parent found) host
  if directory.access.mode &&& stickyBit ≠ 0 && node.access.uid ≠ who.identity.uid &&
      directory.access.uid ≠ who.identity.uid then
    throw .notPermitted
  if node.isDirectory then throw .isDirectory
  return { host with tree := host.tree.erase found }

end Host

end ContainerConstruction
