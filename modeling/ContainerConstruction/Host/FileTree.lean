import ContainerConstruction.Errno

/-!
# File trees

A tree holds a node for every path.  A path is the list of the names from the root, and the root itself
is a directory at the empty path.  Nothing here asks for permission or follows a link.
-/

namespace ContainerConstruction

/-- The names from the root to a node. -/
abbrev TreePath : Type := List String

/-- Who may do what with a node. -/
structure Access where
  mode : UInt32
  uid : UInt32
  gid : UInt32
  deriving DecidableEq, Repr

/-- What a node is. -/
inductive NodeKind where
  | directory
  | file (content : List UInt8)
  | link (target : String)
  | socket
  /-- A device that swallows everything. -/
  | sink
  /-- A tool of the host. -/
  | tool (name : String)
  deriving DecidableEq, Repr

structure Node where
  access : Access
  kind : NodeKind
  deriving DecidableEq, Repr

namespace Node

def isDirectory (node : Node) : Bool := node.kind = .directory

end Node

/-- The nodes of a tree by their paths. -/
structure FileTree where
  nodes : List (TreePath × Node)
  deriving DecidableEq, Repr

namespace FileTree

def node? (tree : FileTree) (path : TreePath) : Option Node :=
  (tree.nodes.find? (·.1 = path)).map (·.2)

def put (path : TreePath) (node : Node) (tree : FileTree) : FileTree :=
  ⟨(path, node) :: tree.nodes.filter (·.1 ≠ path)⟩

def erase (path : TreePath) (tree : FileTree) : FileTree := ⟨tree.nodes.filter (·.1 ≠ path)⟩

/-- The path of `path` seen from `base`, if it lies below. -/
def relative? : (base path : TreePath) → Option TreePath
  | [], path => some path
  | _ :: _, [] => none
  | name :: base, other :: path => if name = other then relative? base path else none

/-- The nodes below a directory, with their paths from there. -/
def below (base : TreePath) (tree : FileTree) : List (TreePath × Node) :=
  tree.nodes.filterMap fun (path, node) ↦
    match relative? base path with
    | some (name :: rest) => some (name :: rest, node)
    | _ => none

def isVacant (path : TreePath) (tree : FileTree) : Bool := (tree.below path).isEmpty

end FileTree

end ContainerConstruction
