/-!
# Shell commands

The commands of a small command language: simple commands with assignments and redirections, put
together by sequences, conditions, loops and functions.  A word is a list of pieces, of which the quoted
ones stay as they are.  What a piece may hold of the language itself is kept as text until the piece is
expanded.
-/

namespace ContainerConstruction.Shell

/-- A piece of a word. -/
inductive Piece where
  | plain (c : Char)
  | quoted (c : Char)
  /-- Quotes, which make a word of nothing. -/
  | quotes
  /-- The value of a parameter, which is one word only if it is quoted. -/
  | parameter (name : String) (quoted : Bool)
  /-- The length of a parameter's value. -/
  | length (name : String)
  /-- What an operation makes of a parameter. -/
  | operation (name operation : String) (quoted : Bool)
  /-- What the commands of a script write. -/
  | substitution (script : String) (quoted : Bool)
  /-- The value of an arithmetic expression. -/
  | arithmetic (expression : String)
  /-- A value that has been found already. -/
  | value (text : String) (quoted : Bool)
  deriving DecidableEq, Repr

/-- A word before expansion. -/
abbrev Word : Type := List Piece

/-- What a redirection does with its descriptor. -/
inductive RedirectionKind where
  | input
  | output
  | append
  /-- The descriptor becomes a copy of another one. -/
  | duplicate
  /-- The word itself is what there is to read. -/
  | document
  deriving DecidableEq, Repr

structure Redirection where
  descriptor : Nat
  kind : RedirectionKind
  target : Word
  deriving DecidableEq, Repr

/-- A command with the line it stands on. -/
structure Simple where
  line : Nat
  assignments : List (String × Word)
  words : List Word
  redirections : List Redirection
  deriving DecidableEq, Repr

inductive Command where
  | nothing
  | simple (command : Simple)
  | sequence (first second : Command)
  /-- The second only if the first succeeds. -/
  | both (first second : Command)
  /-- The second only if the first fails. -/
  | either (first second : Command)
  | negation (command : Command)
  | pipe (first second : Command)
  | choice (test body otherwise : Command)
  /-- Repeats as long as the test succeeds, or as long as it fails. -/
  | loop (untilSuccess : Bool) (test body : Command)
  | iteration (name : String) (words : List Word) (body : Command)
  /-- The body of the first branch that has a pattern for the word. -/
  | selection (line : Nat) (word : Word) (branches : List (List Word × Command))
  | definition (name : String) (body : Command)
  | subshell (body : Command)
  | redirected (line : Nat) (body : Command) (redirections : List Redirection)
  deriving Repr

/-! ## The words of a simple command -/

/-- The words of a simple command, those of its redirections and those that it assigns. -/
def Simple.allWords (command : Simple) : List Word :=
  command.words ++ command.redirections.map (·.target) ++ command.assignments.map (·.2)

def withTargets (redirections : List Redirection) (targets : List Word) : List Redirection :=
  redirections.zipWith (fun redirection target ↦ { redirection with target := target }) targets

def Simple.withAllWords (command : Simple) (words : List Word) : Simple :=
  let (own, others) := words.splitAt command.words.length
  let (targets, values) := others.splitAt command.redirections.length
  { command with
    words := own
    redirections := withTargets command.redirections targets
    assignments := command.assignments.zipWith (fun (name, _) value ↦ (name, value)) values }

/-- Whether a simple command runs others for the sake of what they write. -/
def Simple.hasSubstitution (command : Simple) : Bool :=
  command.allWords.any fun word ↦ word.any fun piece ↦ match piece with
    | .substitution .. => true
    | _ => false

end ContainerConstruction.Shell
