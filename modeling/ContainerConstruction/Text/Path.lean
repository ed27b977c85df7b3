/-!
# Paths as texts

A path is a text of components between slashes.  Nothing here looks at a file: `..` is a component like
any other.
-/

namespace ContainerConstruction.Path

/-- The pieces of a character list between slashes, empty ones included. -/
def pieces : List Char → List (List Char)
  | [] => [[]]
  | c :: rest =>
    if c = '/' then [] :: pieces rest
    else
      match pieces rest with
      | [] => [[c]]
      | first :: others => (c :: first) :: others

/-- The components of a path; repeated slashes count once. -/
def components (path : String) : List String :=
  ((pieces path.toList).filter fun piece ↦ !piece.isEmpty).map String.ofList

def isAbsolute (path : String) : Bool := path.toList.head? = some '/'

/-- Whether a path ends in a slash and so has to name a directory. -/
def endsInSlash (path : String) : Bool := path.toList.getLast? = some '/'

/-- Whether a path is `.`, however it is written. -/
def isHere (path : String) : Bool :=
  !isAbsolute path && !(components path).isEmpty && (components path).all (· = ".")

/-- Whether the last component of a path is a name. -/
def endsInName (path : String) : Bool :=
  match (components path).getLast? with
  | some last => last ≠ "." && last ≠ ".."
  | none => false

/-- A path below a base; an absolute one stands by itself. -/
def join (base path : String) : String :=
  if isAbsolute path then path
  else if base.isEmpty || endsInSlash base then base ++ path
  else base ++ "/" ++ path

/-- Whether a path holds a character that no path can hold. -/
def hasNul (path : String) : Bool := path.toList.contains '\x00'

/-- Whether a path is the name of a socket that is no file. -/
def isAbstract (path : String) : Bool := path.toList.head? = some '\x00'

end ContainerConstruction.Path
