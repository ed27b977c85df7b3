import ContainerConstruction.Host.Provision
import ContainerConstruction.Host.TextTools

/-!
# Tools that change files

The programs of a host that create, remove, copy and list files.
-/

namespace ContainerConstruction

namespace Tools

/-- Changes the host, or fails. -/
def onHost (work : Host → Except Errno Host) (world : World) : Except Errno World :=
  (work world.host).map fun host ↦ { world with host := host }

/-- Changes the host for each operand. -/
def changeEach (tool problem : String) (work : String → Host → Except Errno Host) (task : Task) :
    List String → World → Ending × World :=
  forEach tool (fun path errno ↦ s!"{problem} '{path}': {errno.text}") (fun path ↦ onHost (work path)) task

def lookUp (task : Task) (path : String) (host : Host) : Except Errno (TreePath × Node) :=
  Lookup.find host.tree task.who.identity task.who.place.directory true path

/-! ## Creating -/

/-- Makes sure that a file is there. -/
def touchFile (task : Task) (path : String) (host : Host) : Except Errno Host :=
  match host.openPath task.who .extending path with
  | .ok (_, host) => .ok host
  | .error errno =>
    match lookUp task path host with
    | .ok (_, node) => if node.isDirectory then .ok host else .error errno
    | .error _ => .error errno

def touch (task : Task) : List String → World → Ending × World :=
  changeEach "touch" "cannot touch" (touchFile task) task

/-- Makes directories, and with an option those above them too. -/
def mkdir (task : Task) (arguments : List String) : World → Ending × World :=
  let (options, paths) := optionsOf arguments
  changeEach "mkdir" "cannot create directory" (fun path host ↦
    if options.contains "-p" then host.ensureDirectories task.who path
    else host.makeDirectory task.who path Host.usualDirectoryMode) task paths

/-- The path of a file that goes to a target: into it, if that is a directory. -/
def placeIn (task : Task) (source target : String) (host : Host) : String :=
  match lookUp task target host with
  | .ok (_, node) =>
    if node.isDirectory then Path.join target ((Path.components source).getLast?.getD "") else target
  | .error _ => target

def link (task : Task) (arguments : List String) (world : World) : Ending × World :=
  match optionsOf arguments with
  | (["-s"], [target, path]) =>
    changeEach "ln" "failed to create symbolic link" (fun path host ↦
      host.create task.who (placeIn task target path host) 0o777 (.link target)) task [path] world
  | _ => finish 1 world

def copyFile (task : Task) (source target : String) (host : Host) : Except Errno Host := do
  let (_, node) ← lookUp task source host
  let content ← host.readBytes task.who source
  let target := placeIn task source target host
  let isNew := (lookUp task target host).toOption.isNone
  let (found, host) ← host.openPath task.who .replacing target
  let host := host.appendAt found content
  if isNew then host.changeMode task.who target (node.access.mode &&& ~~~task.who.place.mask)
  else return host

def copy (task : Task) (arguments : List String) (world : World) : Ending × World :=
  match arguments with
  | [source, target] =>
    changeEach "cp" "cannot stat" (fun source ↦ copyFile task source target) task [source] world
  | _ => finish 1 world

/-! ## Changing and removing -/

/-- Changes permissions, which have to be given in digits. -/
def changeModes (task : Task) (arguments : List String) (world : World) : Ending × World :=
  match arguments with
  | digits :: paths =>
    if digits.toList.all fun c ↦ '0' ≤ c && c ≤ '7' then
      let mode := digits.toList.foldl (fun value c ↦ value * 8 + UInt32.ofNat (c.toNat - 48)) 0
      changeEach "chmod" "cannot access" (fun path ↦ Host.changeMode task.who path mode) task paths world
    else finish 1 (complain "chmod" s!"invalid mode: '{digits}'" task world)
  | [] => finish 1 (complain "chmod" "missing operand" task world)

/-- Takes a node and all that is below it away. -/
def removeTree (task : Task) (path : String) (host : Host) : Except Errno Host := do
  let (found, _) ← Lookup.find host.tree task.who.identity task.who.place.directory false path
  let _ ← host.checkChangeable task.who (Lookup.parent found)
  return { host with tree := ⟨host.tree.nodes.filter fun (path, _) ↦
    (FileTree.relative? found path).isNone⟩ }

/-- Takes an empty directory away. -/
def removeDirectory (task : Task) (path : String) (host : Host) : Except Errno Host := do
  let (found, node) ← lookUp task path host
  if !node.isDirectory then throw .notDirectory
  if !host.tree.isVacant found then throw .directoryNotEmpty
  removeTree task path host

/-- Removes files, and with an option directories too. -/
def rm (task : Task) (arguments : List String) : World → Ending × World :=
  let (options, paths) := optionsOf arguments
  let letters := options.flatMap String.toList
  changeEach "rm" "cannot remove" (fun path host ↦
    match if letters.contains 'r' then removeTree task path host else host.removeFile task.who path with
    | .ok host => .ok host
    | .error errno => if letters.contains 'f' && errno = .noEntry then .ok host else .error errno)
    task paths

def rmdir (task : Task) : List String → World → Ending × World :=
  changeEach "rmdir" "failed to remove" (removeDirectory task) task

/-- Gives a node with all that is below it another path. -/
def moveNode (task : Task) (source target : String) (host : Host) : Except Errno Host := do
  let (found, _) ← Lookup.find host.tree task.who.identity task.who.place.directory false source
  let _ ← host.checkChangeable task.who (Lookup.parent found)
  let target := placeIn task source target host
  let (destination, host) ← match host.removeFile task.who target, Lookup.find host.tree
      task.who.identity task.who.place.directory false target with
    | .ok removed, .ok (path, _) => pure (path, removed)
    | _, _ => do
      let (parent, name) ←
        Lookup.vacancy host.tree task.who.identity task.who.place.directory target
      let _ ← host.checkChangeable task.who parent
      pure (parent ++ [name], host)
  return { host with tree := ⟨host.tree.nodes.map fun (path, node) ↦
    match FileTree.relative? found path with
    | some rest => (destination ++ rest, node)
    | none => (path, node)⟩ }

def move (task : Task) (arguments : List String) (world : World) : Ending × World :=
  match arguments with
  | [source, target] =>
    changeEach "mv" "cannot stat" (fun source ↦ moveNode task source target) task [source] world
  | _ => finish 1 world

/-! ## Listing -/

/-- The names in a directory, with the hidden ones only if they are wanted. -/
def namesIn (path : TreePath) (withHidden : Bool) (host : Host) : List String :=
  let names := (host.tree.below path).filterMap fun
    | ([name], _) => if !withHidden && name.toList.head? = some '.' then none else some name
    | _ => none
  names.mergeSort fun first second ↦ decide (first ≤ second)

def list (task : Task) (arguments : List String) (world : World) : Ending × World :=
  let (options, paths) := optionsOf arguments
  let letters := options.flatMap String.toList
  let path := paths.head?.getD "."
  let always := if letters.contains 'a' then [".", ".."] else []
  match Lookup.find world.host.tree task.who.identity task.who.place.directory true path with
  | .error errno => finish 2 (complain "ls" s!"cannot access '{path}': {errno.text}" task world)
  | .ok (found, node) =>
    if !node.isDirectory then finish 0 (task.say 1 s!"{path}\n" world)
    else if !Host.permits task.who .read node then
      finish 2 (complain "ls" s!"cannot open directory '{path}': {Errno.accessDenied.text}" task world)
    else
      let names := always ++ namesIn found (letters.contains 'a' || letters.contains 'A') world.host
      finish 0 (task.say 1 (ofLines names) world)

end Tools

end ContainerConstruction
