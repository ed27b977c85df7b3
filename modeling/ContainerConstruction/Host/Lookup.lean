import ContainerConstruction.Host.FileTree
import ContainerConstruction.Operation.Identity
import ContainerConstruction.Text.Path

/-!
# Looking paths up

`Lookup.walk` follows a path through a tree for somebody with a filesystem identity.  It ends at a node
that is there, or at a name that is still free in a directory that is there.  Links are followed, but
only so many of them.

Every directory on the way has to be one that may be searched.  A path that ends in a slash stands for
what is in the directory it names.
-/

namespace ContainerConstruction

/-! ## Permissions -/

/-- What somebody wants to do with a node. -/
inductive Wish where
  | read
  | write
  /-- To search a directory or to run a program. -/
  | enter
  deriving DecidableEq, Repr

namespace Wish

/-- The bit of a wish in a triple of permission bits. -/
def bit : Wish → UInt32
  | .read => 4
  | .write => 2
  | .enter => 1

end Wish

/-- Whether the permission bits grant a wish: those of the owner, of the group, or of all others. -/
def Access.grants (identity : FsIdentity) (wish : Wish) (access : Access) : Bool :=
  let bits :=
    if identity.uid = access.uid then access.mode >>> 6
    else if identity.gid = access.gid then access.mode >>> 3
    else access.mode
  bits &&& wish.bit ≠ 0

/-! ## Paths -/

/-- Where a path leads. -/
inductive Location where
  | present (path : TreePath)
  /-- A name that is free in a directory. -/
  | free (directory : TreePath) (name : String)
  deriving DecidableEq, Repr

namespace Lookup

def maximalName : Nat := 255

def maximalPath : Nat := 4095

/-- The most links of a path. -/
def maximalLinks : Nat := 40

/-- The steps of a path: its components, and one to stay in place behind a final slash. -/
def steps (path : String) : List String :=
  Path.components path ++ if Path.endsInSlash path && !(Path.components path).isEmpty then ["."] else []

def parent (path : TreePath) : TreePath := path.dropLast

/-- Follows steps from a directory.  `links` is how many links may still be followed, and `final` is
whether a link at the end is followed too. -/
def walk (tree : FileTree) (identity : FsIdentity) (final : Bool) (links : Nat) (here : TreePath) :
    List String → Except Errno Location
  | [] => .ok (.present here)
  | name :: rest =>
    match tree.node? here with
    | none => .error .noEntry
    | some directory =>
      if !directory.isDirectory then .error .notDirectory
      else if !directory.access.grants identity .enter then .error .accessDenied
      else if name = "." then walk tree identity final links here rest
      else if name = ".." then walk tree identity final links (parent here) rest
      else if maximalName < name.utf8ByteSize then .error .nameTooLong
      else
        match tree.node? (here ++ [name]) with
        | none => if rest.isEmpty then .ok (.free here name) else .error .noEntry
        | some node =>
          match node.kind with
          | .link target =>
            if rest.isEmpty && !final then .ok (.present (here ++ [name]))
            else
              match links with
              | 0 => .error .tooManyLinks
              | links + 1 =>
                walk tree identity final links (if Path.isAbsolute target then [] else here)
                  (steps target ++ rest)
          | _ => walk tree identity final links (here ++ [name]) rest
termination_by names => (links, names.length)

/-- Where a path leads, seen from a working directory. -/
def locate (tree : FileTree) (identity : FsIdentity) (directory : TreePath) (final : Bool)
    (path : String) : Except Errno Location :=
  if path.isEmpty then .error .noEntry
  else if maximalPath < path.utf8ByteSize then .error .nameTooLong
  else
    walk tree identity final maximalLinks (if Path.isAbsolute path then [] else directory) (steps path)

def find (tree : FileTree) (identity : FsIdentity) (directory : TreePath) (final : Bool)
    (path : String) : Except Errno (TreePath × Node) :=
  match locate tree identity directory final path with
  | .error errno => .error errno
  | .ok (.free ..) => .error .noEntry
  | .ok (.present found) =>
    match tree.node? found with
    | none => .error .noEntry
    | some node => .ok (found, node)

def withoutFinalSlashes (path : String) : String :=
  String.ofList (path.toList.reverse.dropWhile (· = '/')).reverse

/-- The free name that a path stands for.  Whatever is there already, a link included, is in the way. -/
def vacancy (tree : FileTree) (identity : FsIdentity) (directory : TreePath) (path : String) :
    Except Errno (TreePath × String) :=
  let bare := withoutFinalSlashes path
  if bare.isEmpty && !path.isEmpty then .error .fileExists
  else
    match locate tree identity directory false bare with
    | .error errno => .error errno
    | .ok (.present _) => .error .fileExists
    | .ok (.free parent name) => .ok (parent, name)

end Lookup

end ContainerConstruction
