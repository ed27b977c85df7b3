import ContainerConstruction.Host.Files

/-!
# Patterns

A pattern is a text in which some characters stand for others: a star for any text, a question mark for
any character, and a set in brackets for one of its members.  A quoted character stands for itself.

`Pattern.paths` lists the paths of a host that a pattern stands for.
-/

namespace ContainerConstruction.Shell

/-- A character, and whether it stands for itself. -/
structure PatternChar where
  char : Char
  isQuoted : Bool
  deriving DecidableEq, Repr

/-- A text whose unquoted characters may stand for others. -/
abbrev Pattern : Type := List PatternChar

namespace Pattern

/-- Whether a character is a certain one and does not stand for itself. -/
def isMark (c : Char) (char : PatternChar) : Bool := char.char = c && !char.isQuoted

def ofText (text : String) : Pattern := text.toList.map (⟨·, true⟩)

def text (pattern : Pattern) : String := String.ofList (pattern.map (·.char))

/-- Whether a pattern stands for anything but itself. -/
def isOpen (pattern : Pattern) : Bool :=
  pattern.any fun char ↦ isMark '*' char || isMark '?' char || isMark '[' char

/-- The members of a set, and the pattern behind it. -/
def set? (pattern : Pattern) : Option (List Char × Pattern) :=
  match pattern.span (!isMark ']' ·) with
  | (_, []) => none
  | ([], close :: rest) =>
    match rest.span (!isMark ']' ·) with
    | (_, []) => none
    | (members, _ :: rest) => some ((close :: members).map (·.char), rest)
  | (members, _ :: rest) => some (members.map (·.char), rest)

/-- Whether a character is among members, of which two with a dash between them are a range. -/
def isAmong (c : Char) : List Char → Bool
  | first :: '-' :: last :: rest => (first ≤ c && c ≤ last) || isAmong c rest
  | member :: rest => member = c || isAmong c rest
  | [] => false

/-- Whether a set has a character. -/
def hasMember (c : Char) : List Char → Bool
  | '!' :: members => !isAmong c members
  | members => isAmong c members

/-- Whether a text is one that a pattern stands for, with as many steps as `fuel` allows. -/
def fits : (fuel : Nat) → Pattern → List Char → Bool
  | 0, _, _ => false
  | _ + 1, [], text => text.isEmpty
  | fuel + 1, char :: rest, text =>
    if isMark '*' char then
      fits fuel rest text ||
        match text with
        | [] => false
        | _ :: others => fits fuel (char :: rest) others
    else
      match text with
      | [] => false
      | c :: others =>
        if isMark '?' char then fits fuel rest others
        else
          match if isMark '[' char then set? rest else none with
          | some (members, behind) => hasMember c members && fits fuel behind others
          | none => char.char = c && fits fuel rest others

/-- Whether a pattern stands for a text. -/
def isMatch (pattern : Pattern) (text : List Char) : Bool :=
  fits (2 * (pattern.length + text.length) + 2) pattern text

/-! ## Cutting texts -/

/-- The ends of a text, longest first. -/
def ends : List Char → List (List Char)
  | [] => [[]]
  | c :: rest => (c :: rest) :: ends rest

/-- The text without the shortest or longest beginning that a pattern stands for. -/
def cutFront (longest : Bool) (pattern : Pattern) (text : List Char) : List Char :=
  let candidates := if longest then (ends text).reverse else ends text
  (candidates.find? fun rest ↦ pattern.isMatch (text.take (text.length - rest.length))).getD text

/-- The text without the shortest or longest end that a pattern stands for. -/
def cutBack (longest : Bool) (pattern : Pattern) (text : List Char) : List Char :=
  let candidates := if longest then ends text else (ends text).reverse
  ((candidates.find? pattern.isMatch).map fun rest ↦ text.take (text.length - rest.length)).getD text

/-! ## Paths -/

def parts : Pattern → List Pattern
  | [] => [[]]
  | char :: rest =>
    if char.char = '/' then [] :: parts rest
    else
      match parts rest with
      | [] => [[char]]
      | first :: others => (char :: first) :: others

def insertSorted (text : String) : List String → List String
  | [] => [text]
  | other :: rest => if text < other then text :: other :: rest else other :: insertSorted text rest

/-- The names in a directory that a pattern stands for.  A name that begins with a dot has to be asked
for. -/
def namesIn (who : Host.Accessor) (host : Host) (directory : String) (pattern : Pattern) : List String :=
  match Lookup.find host.tree who.identity who.place.directory true directory with
  | .error _ => []
  | .ok (found, node) =>
    if !node.isDirectory || !Host.permits who .read node then []
    else
      let asksForDot := pattern.head?.map (·.char) = some '.'
      let names := (host.tree.below found).filterMap fun
        | ([name], _) =>
          if (name.toList.head? ≠ some '.' || asksForDot) && pattern.isMatch name.toList then some name
          else none
        | _ => none
      names.foldr insertSorted []

/-- The paths that the parts of a pattern stand for, below a path that ends in a slash or is empty. -/
def pathsFrom (who : Host.Accessor) (host : Host) (base : String) : List Pattern → List String
  | [] => []
  | [last] =>
    if last.isOpen then (namesIn who host (if base.isEmpty then "." else base) last).map (base ++ ·)
    else
      match Lookup.find host.tree who.identity who.place.directory false (base ++ text last) with
      | .ok _ => [base ++ text last]
      | .error _ => []
  | part :: rest =>
    let names :=
      if part.isOpen then namesIn who host (if base.isEmpty then "." else base) part else [text part]
    names.flatMap fun name ↦ pathsFrom who host (base ++ name ++ "/") rest

/-- The paths that a pattern stands for, or else the pattern itself. -/
def paths (who : Host.Accessor) (host : Host) (pattern : Pattern) : List String :=
  if !pattern.isOpen then [text pattern]
  else
    match pathsFrom who host "" (parts pattern) with
    | [] => [text pattern]
    | found => found

end Pattern

end ContainerConstruction.Shell
