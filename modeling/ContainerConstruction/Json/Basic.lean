/-!
# JSON values

`Json` is what a document says once it has been read: objects keep the order of their members, and
integers are exact.  `Json.print` is the compact text form.  A number that is not an integer of the
64-bit range keeps the literal it was written with; nothing here computes with it.
-/

namespace ContainerConstruction

/-- A JSON value with ordered members. -/
inductive Json where
  | null
  | bool (value : Bool)
  | integer (value : Int)
  | decimal (literal : String)
  | string (text : String)
  | array (items : List Json)
  | object (members : List (String × Json))
  deriving Inhabited, BEq, Repr

namespace Json

def nat (value : Nat) : Json := .integer value

def strings (texts : List String) : Json := .array (texts.map .string)

/-- `null` for an absent value. -/
def optional {α : Type} (encode : α → Json) : Option α → Json
  | none => .null
  | some value => encode value

/-- The lower-case hexadecimal digit of a number below sixteen. -/
def hexDigit (value : Nat) : Char :=
  if value < 10 then Char.ofNat (48 + value) else Char.ofNat (87 + value)

/-- One character inside a string literal: quotes, backslashes and controls are escaped. -/
def printChar (c : Char) : List Char :=
  if c = '"' then ['\\', '"']
  else if c = '\\' then ['\\', '\\']
  else if c = '\n' then ['\\', 'n']
  else if c = '\r' then ['\\', 'r']
  else if c = '\t' then ['\\', 't']
  else if c = '\x08' then ['\\', 'b']
  else if c = '\x0c' then ['\\', 'f']
  else if c.toNat < 32 then ['\\', 'u', '0', '0', hexDigit (c.toNat / 16), hexDigit (c.toNat % 16)]
  else [c]

def printString (text : String) : List Char :=
  '"' :: text.toList.flatMap printChar ++ ['"']

def printInteger (value : Int) : List Char :=
  if value < 0 then '-' :: (Nat.repr value.natAbs).toList else (Nat.repr value.natAbs).toList

mutual

/-- The compact text of a value, without blanks. -/
def print : Json → List Char
  | .null => ['n', 'u', 'l', 'l']
  | .bool true => ['t', 'r', 'u', 'e']
  | .bool false => ['f', 'a', 'l', 's', 'e']
  | .integer value => printInteger value
  | .decimal literal => literal.toList
  | .string text => printString text
  | .array items => '[' :: printItems items
  | .object members => '{' :: printMembers members

/-- The items of an array and its closing bracket. -/
def printItems : List Json → List Char
  | [] => [']']
  | [item] => print item ++ [']']
  | item :: others => print item ++ ',' :: printItems others

/-- The members of an object and its closing brace. -/
def printMembers : List (String × Json) → List Char
  | [] => ['}']
  | [(name, value)] => printString name ++ ':' :: (print value ++ ['}'])
  | (name, value) :: others => printString name ++ ':' :: (print value ++ ',' :: printMembers others)

end

/-- The compact text of a value. -/
def render (value : Json) : String := String.ofList value.print

/-- Sets a member in a list sorted by name; an earlier value of the same name gives way. -/
def insertSorted (name : String) (value : Json) : List (String × Json) → List (String × Json)
  | [] => [(name, value)]
  | (other, kept) :: rest =>
    if name < other then (name, value) :: (other, kept) :: rest
    else if name = other then (name, value) :: rest
    else (other, kept) :: insertSorted name value rest

/-- The value of a member. -/
def member? (name : String) : Json → Option Json
  | .object members => (members.find? (·.1 = name)).map (·.2)
  | _ => none

end Json

end ContainerConstruction
