import ContainerConstruction.Host.World
import ContainerConstruction.Process.Spec

/-!
# Program images

What the kernel makes of a file that is to be run: a tool of the host, either at once or as the
interpreter that the first line of a script names.  A file that is neither is no program; whoever asked
for it may let the shell run it instead.
-/

namespace ContainerConstruction

/-- A tool with the name it is run under and its arguments. -/
structure ProgramImage where
  tool : String
  name : String
  arguments : List String
  deriving DecidableEq, Repr

namespace ProgramImage

def shellPath : String := "/bin/sh"

/-- The most scripts that may be interpreters of each other. -/
def maximalNesting : Nat := 5

def isSeparator (byte : UInt8) : Bool := byte = 32 || byte = 9

/-- The interpreter that a script names, with at most one argument. -/
def interpreter? (content : List UInt8) : Option (String × Option String) :=
  match content with
  | 35 :: 33 :: rest =>
    let line := (rest.takeWhile (· ≠ 10)).dropWhile isSeparator
    let trimmed := (line.reverse.dropWhile isSeparator).reverse
    let path := trimmed.takeWhile (!isSeparator ·)
    let argument := (trimmed.dropWhile (!isSeparator ·)).dropWhile isSeparator
    if path.isEmpty then none
    else
      some (Text.Utf8.toTextLossy path,
        if argument.isEmpty then none else some (Text.Utf8.toTextLossy argument))
  | _ => none

/-- The image of a file. -/
def load (who : Host.Accessor) (host : Host) :
    (nesting : Nat) → (path name : String) → (arguments : List String) → Except Errno ProgramImage
  | 0, _, _, _ => .error .tooManyLinks
  | nesting + 1, path, name, arguments =>
    if Path.hasNul path then .error .noEntry
    else
      match Lookup.find host.tree who.identity who.place.directory true path with
      | .error errno => .error errno
      | .ok (_, node) =>
        match node.kind with
        | .tool tool =>
          if Host.permits who .enter node then .ok ⟨tool, name, arguments⟩ else .error .accessDenied
        | .file content =>
          if !Host.permits who .enter node then .error .accessDenied
          else
            match interpreter? content with
            | none => .error .badFormat
            | some (interpreter, argument) =>
              load who host nesting interpreter interpreter (argument.toList ++ path :: arguments)
        | _ => .error .accessDenied

/-- The image of the file at a path. -/
def ofFile (who : Host.Accessor) (host : Host) (path name : String) (arguments : List String) :
    Except Errno ProgramImage :=
  load who host maximalNesting path name arguments

/-- The shell, running a script. -/
def ofScript (path : String) (arguments : List String) : ProgramImage :=
  ⟨"sh", shellPath, path :: arguments⟩

/-- The image of a file, where the shell runs what is no program. -/
def ofFileOrScript (who : Host.Accessor) (host : Host) (path name : String) (arguments : List String) :
    Except Errno ProgramImage :=
  match ofFile who host path name arguments with
  | .error errno =>
    if errno = .badFormat then .ok (ofScript path arguments) else .error errno
  | image => image

/-! ## Searching -/

/-- The search path where none is set. -/
def usualSearchPath : String := "/bin:/usr/bin"

def directoriesOf (searchPath : String) : List String := searchPath.splitOn ":"

/-- The first image that the directories have under a name.  A directory without that name is passed
over; that permission was denied in one is remembered. -/
def search (who : Host.Accessor) (host : Host) (program : String) (arguments : List String)
    (denied : Bool) : List String → Except Errno ProgramImage
  | [] => .error (if denied then .accessDenied else .noEntry)
  | directory :: rest =>
    match ofFileOrScript who host (Path.join directory program) program arguments with
    | .ok image => .ok image
    | .error errno =>
      if errno = .accessDenied then search who host program arguments true rest
      else if errno = .noEntry || errno = .notDirectory then
        search who host program arguments denied rest
      else .error errno

/-- The image of a program: a path if it has a slash, and otherwise a name to search for. -/
def ofProgram (who : Host.Accessor) (host : Host) (searchPath : Option String) (program : String)
    (arguments : List String) : Except Errno ProgramImage :=
  if program.isEmpty then .error .noEntry
  else if program.toList.contains '/' then ofFileOrScript who host program program arguments
  else if Lookup.maximalName < program.utf8ByteSize then .error .nameTooLong
  else search who host program arguments false (directoriesOf (searchPath.getD usualSearchPath))

end ProgramImage

end ContainerConstruction
