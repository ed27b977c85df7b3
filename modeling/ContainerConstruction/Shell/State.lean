import ContainerConstruction.Host.World
import ContainerConstruction.Shell.Pattern
import ContainerConstruction.Shell.Script

/-!
# The state of a shell

A shell has variables, of which some go to the programs it runs, positional parameters, functions,
options and traps.  This module also expands words whose operations and substitutions have been carried
out: a value outside quotes may become any number of fields, and a field that is a pattern becomes the
paths it stands for.
-/

namespace ContainerConstruction.Shell

structure Variable where
  name : String
  value : String
  isExported : Bool
  deriving DecidableEq, Repr

/-- A shell between two commands. -/
structure State where
  task : Task
  /-- The name the shell goes by. -/
  name : String
  arguments : List String
  bindings : List Variable
  status : Nat
  /-- Whether a failing command ends the shell. -/
  exitsOnError : Bool
  /-- Whether a parameter has to be set. -/
  isStrict : Bool
  /-- Whether commands are shown before they are carried out. -/
  isTraced : Bool
  /-- Whether patterns stand for themselves. -/
  keepsPatterns : Bool
  /-- What is done at a signal, or at the end under the number zero. -/
  traps : List (Nat × String)
  /-- The signals of its own making that the shell has yet to react to. -/
  pending : List Nat
  functions : List (String × Command)
  /-- The variables that the present function has hidden, as they were before. -/
  hidden : List (String × Option Variable)
  /-- How many loops are being repeated. -/
  loops : Nat
  /-- Whether this is the process under observation. -/
  isObserved : Bool
  deriving Repr

namespace State

/-! ## Variables -/

def value? (name : String) (state : State) : Option String :=
  (state.bindings.find? (·.name = name)).map (·.value)

/-- Sets a variable, which keeps its place and stays exported if it was. -/
def assign (name value : String) (state : State) : State :=
  if state.bindings.any (·.name = name) then
    { state with bindings := state.bindings.map fun known ↦
        if known.name = name then { known with value := value } else known }
  else { state with bindings := state.bindings ++ [⟨name, value, false⟩] }

/-- Marks a variable for the programs that the shell runs. -/
def markExported (name : String) (state : State) : State :=
  { state with bindings := state.bindings.map fun known ↦
      if known.name = name then { known with isExported := true } else known }

/-- Sets a variable and marks it. -/
def assignExported (name value : String) (state : State) : State :=
  (state.assign name value).markExported name

def forget (name : String) (state : State) : State :=
  { state with bindings := state.bindings.filter (·.name ≠ name) }

/-- Hides a variable for as long as the present function runs. -/
def hide (name : String) (state : State) : State :=
  { state with hidden := (name, state.bindings.find? (·.name = name)) :: state.hidden }

/-- Brings back a variable as it was. -/
def restore (state : State) : String × Option Variable → State
  | (name, none) => state.forget name
  | (name, some known) => { state with bindings := (state.forget name).bindings ++ [known] }

/-- The group that a name belongs to: its characters added up, the first one seventeen times, counted
round thirty-nine groups. -/
def groupOf (name : String) : Nat :=
  let codes := (Text.Utf8.ofText name).map UInt8.toNat
  (16 * codes.headD 0 + codes.foldl (· + ·) 0) % 39

/-- The environment of the programs that the shell runs: group after group, and in each of them the
oldest variable first. -/
def environment (state : State) : List (String × String) :=
  let exported := state.bindings.filter (·.isExported)
  (exported.mergeSort fun first second ↦ groupOf first.name ≤ groupOf second.name).map fun known ↦
    (known.name, known.value)

/-- The search path of a shell that is given none. -/
def usualSearchPath : String := "/usr/local/sbin:/usr/local/bin:/usr/sbin:/usr/bin:/sbin:/bin"

/-- Whether a text is the name of a variable. -/
def isName (text : String) : Bool :=
  match text.toList with
  | [] => false
  | c :: rest => startsName c && rest.all continuesName

/-- A shell that begins with the environment of a task. -/
def ofTask (task : Task) (name : String) (arguments : List String) (isObserved : Bool) : State :=
  let given := (task.environment.filter fun (name, _) ↦ isName name).map fun (name, value) ↦
    (⟨name, value, true⟩ : Variable)
  let path : List Variable :=
    if given.any (·.name = "PATH") then [] else [⟨"PATH", usualSearchPath, false⟩]
  let state : State :=
    ⟨task, name, arguments, given ++ path, 0, false, false, false, false, [], [], [], [], 0, isObserved⟩
  state.assignExported "PWD" (Host.shownPath task.who.place.directory)

/-- The task of a program that the shell runs. -/
def childTask (state : State) : Task := { state.task with environment := state.environment }

/-! ## Diagnostics -/

def diagnostic (line : Nat) (message : String) (state : State) : String :=
  s!"{state.name}: {line}: {message}\n"

def complain (line : Nat) (message : String) (state : State) (world : World) : World :=
  state.task.say 2 (state.diagnostic line message) world

/-! ## Parameters -/

def indexOf? (name : String) : Option Nat := if name.toList.all Char.isDigit then name.toNat? else none

def parameter? (name : String) (state : State) : Option String :=
  match name with
  | "#" => some (toString state.arguments.length)
  | "?" => some (toString state.status)
  | "$" => some (toString state.task.pid)
  | "!" => none
  | "-" =>
    let letters := [('e', state.exitsOnError), ('f', state.keepsPatterns), ('x', state.isTraced),
      ('u', state.isStrict)]
    some (String.ofList ((letters.filter (·.2)).map (·.1)))
  | "@" | "*" => some (" ".intercalate state.arguments)
  | _ =>
    match indexOf? name with
    | some 0 => some state.name
    | some (index + 1) => state.arguments[index]?
    | none => state.value? name

/-- The value of a parameter, which is nothing if it need not be set. -/
def expandParameter (name : String) (state : State) : Except String String :=
  match state.parameter? name with
  | some value => .ok value
  | none => if state.isStrict && name ≠ "!" then .error s!"{name}: parameter not set" else .ok ""

end State

/-! ## Words -/

/-- Fields while a word is expanded: those that are finished, and the one that is open. -/
structure Fields where
  finished : List Pattern
  current : Option Pattern

namespace Fields

def push (char : PatternChar) (fields : Fields) : Fields :=
  { fields with current := some (fields.current.getD [] ++ [char]) }

def close (fields : Fields) : Fields :=
  match fields.current with
  | none => fields
  | some field => ⟨fields.finished ++ [field], none⟩

/-- Adds a value that separators divide.  A separator that is no blank finishes a field even if there is
nothing in it. -/
def pushDivided (separators value : List Char) (fields : Fields) : Fields :=
  value.foldl (fun fields c ↦
    if !separators.contains c then fields.push ⟨c, false⟩
    else if " \t\n".toList.contains c then fields.close
    else { fields with current := some (fields.current.getD []) }.close) fields

/-- Adds a value as it is. -/
def pushWhole (value : String) (fields : Fields) : Fields :=
  { fields with current := some (fields.current.getD [] ++ Pattern.ofText value) }

/-- Adds values that are fields of their own. -/
def pushSeparate (values : List String) (fields : Fields) : Fields :=
  match values with
  | [] => if fields.current = some [] then { fields with current := none } else fields
  | first :: rest =>
    rest.foldl (fun fields value ↦ fields.close.pushWhole value) (fields.pushWhole first)

end Fields

/-- The characters that divide values. -/
def State.separators (state : State) : List Char := ((state.value? "IFS").getD " \t\n").toList

/-- Adds a value, which is one field only if it is quoted. -/
def pushValue (state : State) (quoted : Bool) (value : String) (fields : Fields) : Fields :=
  if quoted then fields.pushWhole value else fields.pushDivided state.separators value.toList

/-- The text of a piece that is not divided. -/
def pieceText (state : State) : Piece → Except String String
  | .plain c | .quoted c => .ok (String.singleton c)
  | .quotes => .ok ""
  | .parameter "*" true =>
    .ok ((String.ofList (state.separators.take 1)).intercalate state.arguments)
  | .parameter name _ => state.expandParameter name
  | .length name => (state.expandParameter name).map fun value ↦ toString value.length
  | .value text _ => .ok text
  | .operation .. | .substitution .. | .arithmetic _ => .ok ""

/-- Expands a piece of a word. -/
def expandPiece (state : State) (fields : Fields) (piece : Piece) : Except String Fields :=
  match piece with
  | .plain c => .ok (fields.push ⟨c, false⟩)
  | .quoted c => .ok (fields.push ⟨c, true⟩)
  | .quotes => .ok (fields.pushWhole "")
  | .parameter "@" true => .ok (fields.pushSeparate state.arguments)
  | .parameter _ quoted | .value _ quoted =>
    (pieceText state piece).map fun value ↦ pushValue state quoted value fields
  | _ => (pieceText state piece).map fun value ↦ fields.pushWhole value

/-- A word whose tilde is replaced by the directory of the user, if it begins a path of its own. -/
def expandTilde (state : State) (word : Word) : Word :=
  let home (rest : Word) : Word :=
    match state.value? "HOME" with
    | some home => .value home true :: rest
    | none => .plain '~' :: rest
  match word with
  | [.plain '~'] => home []
  | .plain '~' :: .plain '/' :: rest => home (.plain '/' :: rest)
  | _ => word

/-- The paths that a field stands for. -/
def fieldPaths (host : Host) (state : State) (field : Pattern) : List String :=
  if state.keepsPatterns then [String.ofList (field.map (·.char))]
  else Pattern.paths state.task.who host field

def expandWord (host : Host) (state : State) (word : Word) : Except String (List String) :=
  ((expandTilde state word).foldlM (expandPiece state) ⟨[], none⟩).map fun fields ↦
    fields.close.finished.flatMap (fieldPaths host state)

def expandWords (host : Host) (state : State) (words : List Word) : Except String (List String) :=
  (words.mapM (expandWord host state)).map List.flatten

/-- The text of a word that is not divided. -/
def expandText (state : State) (word : Word) : Except String String :=
  ((expandTilde state word).mapM (pieceText state)).map String.join

/-- The pattern that a piece is part of. -/
def piecePattern (state : State) (piece : Piece) : Except String Pattern :=
  match piece with
  | .plain c => .ok [⟨c, false⟩]
  | .parameter _ quoted | .value _ quoted =>
    (pieceText state piece).map fun text ↦ text.toList.map (⟨·, quoted⟩)
  | _ => (pieceText state piece).map Pattern.ofText

def expandPattern (state : State) (word : Word) : Except String Pattern :=
  (word.mapM (piecePattern state)).map List.flatten

end ContainerConstruction.Shell
