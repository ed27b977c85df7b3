/-!
# Operations on parameters

What stands between the braces of a parameter expansion behind the name: a word that takes the place of
the value, or a pattern that is cut off it.
-/

namespace ContainerConstruction.Shell

inductive ParameterOperation where
  /-- A word in place of a value that is absent. -/
  | fallback
  /-- The same, which is also assigned. -/
  | initial
  /-- A message in place of a value that is absent. -/
  | required
  /-- A word in place of a value that is present. -/
  | instead
  | cutFront (longest : Bool)
  | cutBack (longest : Bool)
  deriving DecidableEq, Repr

/-- Reads an operation: which one it is, whether an empty value counts as absent, and its word. -/
def operationOf? (text : List Char) : Option (ParameterOperation × Bool × List Char) :=
  let ofMark (mark : Char) : Option ParameterOperation :=
    [('-', ParameterOperation.fallback), ('=', .initial), ('?', .required), ('+', .instead)].lookup mark
  match text with
  | ':' :: c :: rest => (ofMark c).map (·, true, rest)
  | '%' :: '%' :: rest => some (.cutBack true, false, rest)
  | '%' :: rest => some (.cutBack false, false, rest)
  | '#' :: '#' :: rest => some (.cutFront true, false, rest)
  | '#' :: rest => some (.cutFront false, false, rest)
  | c :: rest => (ofMark c).map (·, false, rest)
  | [] => none

/-- The message about a parameter that has to be there. -/
def absenceMessage (name : String) (emptyCounts : Bool) (word : String) : String :=
  if !word.isEmpty then s!"{name}: {word}"
  else if emptyCounts then s!"{name}: parameter not set or null"
  else s!"{name}: parameter not set"

end ContainerConstruction.Shell
