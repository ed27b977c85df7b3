import ContainerConstruction.Json.Basic

/-!
# Documents as far as they can be read

A reader reports the first thing wrong with a document, and a misplaced value may come before the
place where the text stops being JSON.  `Document.scan` therefore never fails: it gives the tree of
the text and marks the first syntax error by `broken`, behind which nothing is known.  Restrictions
that hold only for values that are used, not for values that are passed over, stay visible in the
tree: a string with an unpaired surrogate or ill-formed bytes has no text, and a number beyond the
floating-point range is marked.

The module decides syntax only; what a document has to hold is the matter of `Json.Reader`.
-/

namespace ContainerConstruction.Json

/-- One position of a document: a character, or `none` where the bytes are no UTF-8. -/
abbrev Input := List (Option Char)

/-- The tree of a text up to its first syntax error. -/
inductive Document where
  /-- Here the text stops being JSON. -/
  | broken
  | null
  | bool (value : Bool)
  /-- A literal without fraction and exponent, in the range of the 64-bit integers. -/
  | integer (value : Int)
  /-- Any other number, and whether it is within the floating-point range. -/
  | decimal (literal : String) (finite : Bool)
  /-- A string; no text if it holds an unpaired surrogate or ill-formed bytes. -/
  | string (text : Option String)
  /-- An array; `closed` unless the text breaks off between two items. -/
  | array (items : List Document) (closed : Bool)
  /-- An object; `closed` unless the text breaks off where a member should begin. -/
  | object (members : List (Option String × Document)) (closed : Bool)
  deriving Inhabited

namespace Document

/-- The blanks between tokens. -/
def isBlank : Option Char → Bool
  | some c => c = ' ' || c = '\t' || c = '\n' || c = '\r'
  | none => false

def skipBlanks (input : Input) : Input := input.dropWhile isBlank

/-! ## Strings -/

/-- What a string literal is written with: characters, escaped 16-bit units and ill-formed bytes. -/
inductive Piece where
  | char (c : Char)
  | unit (code : Nat)
  | illFormed

def hexValue? : Option Char → Option Nat
  | none => none
  | some c =>
    if '0' ≤ c ∧ c ≤ '9' then some (c.toNat - 48)
    else if 'a' ≤ c ∧ c ≤ 'f' then some (c.toNat - 87)
    else if 'A' ≤ c ∧ c ≤ 'F' then some (c.toNat - 55)
    else none

/-- The character that a one-letter escape stands for. -/
def escaped? (c : Char) : Option Char :=
  if c = '"' ∨ c = '\\' ∨ c = '/' then some c
  else if c = 'b' then some '\x08'
  else if c = 'f' then some '\x0c'
  else if c = 'n' then some '\n'
  else if c = 'r' then some '\r'
  else if c = 't' then some '\t'
  else none

/-- The pieces of a string up to its closing quote, and the input behind it. -/
def scanString : Input → Option (List Piece × Input)
  | [] => none
  | none :: rest => (scanString rest).map fun (pieces, after) ↦ (.illFormed :: pieces, after)
  | some c :: rest =>
    if c = '"' then some ([], rest)
    else if c = '\\' then
      match rest with
      | some 'u' :: a :: b :: d :: e :: behind =>
        match hexValue? a, hexValue? b, hexValue? d, hexValue? e with
        | some a, some b, some d, some e =>
          (scanString behind).map fun (pieces, after) ↦
            (.unit (((a * 16 + b) * 16 + d) * 16 + e) :: pieces, after)
        | _, _, _, _ => none
      | some letter :: behind =>
        match escaped? letter with
        | some c => (scanString behind).map fun (pieces, after) ↦ (.char c :: pieces, after)
        | none => none
      | _ => none
    else if c.toNat < 32 then none
    else (scanString rest).map fun (pieces, after) ↦ (.char c :: pieces, after)

/-- The first half of a surrogate pair. -/
def isLeading (code : Nat) : Bool := 0xD800 ≤ code && code < 0xDC00

/-- The second half of a surrogate pair. -/
def isTrailing (code : Nat) : Bool := 0xDC00 ≤ code && code < 0xE000

/-- The characters of a string: two escaped units that form a surrogate pair are one character, and
an unpaired surrogate is none. -/
def assemble : List Piece → Option (List Char)
  | [] => some []
  | .char c :: rest => (assemble rest).map (c :: ·)
  | .illFormed :: _ => none
  | .unit code :: rest =>
    if isLeading code then
      match rest with
      | .unit low :: behind =>
        if isTrailing low then
          (assemble behind).map
            (Char.ofNat (0x10000 + (code - 0xD800) * 1024 + (low - 0xDC00)) :: ·)
        else none
      | _ => none
    else if isTrailing code then none
    else (assemble rest).map (Char.ofNat code :: ·)

/-- The text of a string literal, if all of it is text. -/
def textOf (pieces : List Piece) : Option String := (assemble pieces).map String.ofList

/-! ## Numbers -/

def isDigit : Option Char → Bool
  | some c => '0' ≤ c && c ≤ '9'
  | none => false

/-- The value of a run of digits. -/
def digitsValue (digits : Input) : Nat :=
  digits.foldl (fun value digit ↦ value * 10 + (digit.getD '0').toNat - 48) 0

/-- A number literal taken apart. -/
structure Literal where
  negative : Bool
  whole : Input
  /-- The digits behind the point, if there is one. -/
  fraction : Option Input
  /-- The sign and digits of the exponent, if there is one. -/
  exponent : Option (Bool × Input)

/-- The digits in front, with at least one. -/
def scanDigits (input : Input) : Option (Input × Input) :=
  match input.span isDigit with
  | ([], _) => none
  | found => some found

/-- A fraction, if one begins here. -/
def scanFraction : Input → Option (Option Input × Input)
  | some '.' :: rest => (scanDigits rest).map fun (digits, after) ↦ (some digits, after)
  | input => some (none, input)

/-- An exponent, if one begins here. -/
def scanExponent : Input → Option (Option (Bool × Input) × Input)
  | some c :: rest =>
    if c = 'e' ∨ c = 'E' then
      match rest with
      | some '-' :: behind => (scanDigits behind).map fun (digits, after) ↦ (some (true, digits), after)
      | some '+' :: behind => (scanDigits behind).map fun (digits, after) ↦ (some (false, digits), after)
      | _ => (scanDigits rest).map fun (digits, after) ↦ (some (false, digits), after)
    else some (none, some c :: rest)
  | input => some (none, input)

/-- A number without its sign: no leading zero, and digits on both sides of a point. -/
def scanUnsigned (negative : Bool) (input : Input) : Option (Literal × Input) :=
  match scanDigits input with
  | none => none
  | some (whole, afterWhole) =>
    if whole.head? = some (some '0') ∧ 1 < whole.length then none
    else
      match scanFraction afterWhole with
      | none => none
      | some (fraction, afterFraction) =>
        match scanExponent afterFraction with
        | none => none
        | some (exponent, after) => some (⟨negative, whole, fraction, exponent⟩, after)

def scanNumber : Input → Option (Literal × Input)
  | some '-' :: rest => scanUnsigned true rest
  | input => scanUnsigned false input

namespace Literal

/-- The characters of the literal.  One that is written like an integer gets a point, since it stands for
none. -/
def text (literal : Literal) : String :=
  let fraction := match literal.fraction, literal.exponent with
    | none, none => [some '.', some '0']
    | none, some _ => []
    | some digits, _ => some '.' :: digits
  let exponent := match literal.exponent with
    | none => []
    | some (negative, digits) => some 'e' :: ((if negative then [some '-'] else []) ++ digits)
  String.ofList (((if literal.negative then [some '-'] else []) ++ literal.whole ++ fraction ++ exponent).map
    (·.getD '0'))

/-- The digits read as one integer. -/
def significand (literal : Literal) : Nat := digitsValue (literal.whole ++ literal.fraction.getD [])

/-- The power of ten that the significand is multiplied by. -/
def scale (literal : Literal) : Int :=
  let written : Int := match literal.exponent with
    | none => 0
    | some (true, digits) => -(digitsValue digits)
    | some (false, digits) => digitsValue digits
  written - ((literal.fraction.getD []).length : Int)

/-- The least number that rounds to infinity in binary64. -/
def floatBound : Nat := Nat.pow 2 1024 - Nat.pow 2 970

/-- Whether the number is within the binary64 range. -/
def isFinite (literal : Literal) : Bool :=
  let significand := literal.significand
  if significand = 0 then true
  else
    match literal.scale with
    | .ofNat power => if 308 < power then false else significand * Nat.pow 10 power < floatBound
    | .negSucc power =>
      -- With no more digits than that the number is below one.
      if (literal.whole ++ literal.fraction.getD []).length ≤ power + 1 then true
      else significand / Nat.pow 10 (power + 1) < floatBound

/-- A literal as a value: an exact integer where it is one of the 64-bit range.  A negative zero is
no integer. -/
def toDocument (literal : Literal) : Document :=
  match literal.fraction, literal.exponent with
  | none, none =>
    let magnitude := digitsValue literal.whole
    if literal.negative then
      if magnitude ≠ 0 ∧ magnitude ≤ 9223372036854775808 then .integer (-magnitude)
      else .decimal literal.text literal.isFinite
    else if magnitude < 18446744073709551616 then .integer magnitude
    else .decimal literal.text literal.isFinite
  | _, _ => .decimal literal.text literal.isFinite

end Literal

/-! ## Values -/

/-- The input behind a fixed word. -/
def scanWord : List Char → Input → Option Input
  | [], input => some input
  | c :: word, some d :: rest => if c = d then scanWord word rest else none
  | _ :: _, _ => none

/-- A value without parts that begins with `c`, and the input behind it unless it is broken. -/
def scanScalar (c : Char) (rest : Input) : Document × Option Input :=
  if c = '"' then
    match scanString rest with
    | some (pieces, after) => (.string (textOf pieces), some after)
    | none => (.broken, none)
  else if c = 'n' then
    match scanWord ['u', 'l', 'l'] rest with
    | some after => (.null, some after)
    | none => (.broken, none)
  else if c = 't' then
    match scanWord ['r', 'u', 'e'] rest with
    | some after => (.bool true, some after)
    | none => (.broken, none)
  else if c = 'f' then
    match scanWord ['a', 'l', 's', 'e'] rest with
    | some after => (.bool false, some after)
    | none => (.broken, none)
  else
    match scanNumber (some c :: rest) with
    | some (literal, after) => (literal.toDocument, some after)
    | none => (.broken, none)

mutual

/-- One value behind any blanks, and the input behind it unless the text broke off inside. -/
def scanValue : Nat → Input → Document × Option Input
  | 0, _ => (.broken, none)
  | fuel + 1, input =>
    match skipBlanks input with
    | some '[' :: rest =>
      match skipBlanks rest with
      | some ']' :: after => (.array [] true, some after)
      | first =>
        let (items, after) := scanItems fuel first
        (.array items after.isSome, after)
    | some '{' :: rest =>
      match skipBlanks rest with
      | some '}' :: after => (.object [] true, some after)
      | first =>
        let (members, after) := scanMembers fuel first
        (.object members after.isSome, after)
    | some c :: rest => scanScalar c rest
    | _ => (.broken, none)

/-- One item and those that follow it, up to the closing bracket. -/
def scanItems : Nat → Input → List Document × Option Input
  | 0, _ => ([], none)
  | fuel + 1, input =>
    match scanValue fuel input with
    | (item, none) => ([item], none)
    | (item, some afterItem) =>
      match skipBlanks afterItem with
      | some ']' :: after => ([item], some after)
      | some ',' :: rest =>
        let (items, after) := scanItems fuel rest
        (item :: items, after)
      | _ => ([item], none)

/-- One member and those that follow it, up to the closing brace.  A member whose value cannot be
read is the last one; where no name can be read there is no member. -/
def scanMembers : Nat → Input → List (Option String × Document) × Option Input
  | 0, _ => ([], none)
  | fuel + 1, input =>
    match skipBlanks input with
    | some '"' :: quoted =>
      match scanString quoted with
      | none => ([], none)
      | some (pieces, afterName) =>
        match skipBlanks afterName with
        | some ':' :: beforeValue =>
          match scanValue fuel beforeValue with
          | (value, none) => ([(textOf pieces, value)], none)
          | (value, some afterValue) =>
            match skipBlanks afterValue with
            | some '}' :: after => ([(textOf pieces, value)], some after)
            | some ',' :: rest =>
              let (members, after) := scanMembers fuel rest
              ((textOf pieces, value) :: members, after)
            | _ => ([(textOf pieces, value)], none)
        | _ => ([(textOf pieces, .broken)], none)
    | _ => ([], none)

end

/-- The document of an input, and whether nothing but blanks follows it.  Every step of the scanner
takes at least one position in two, which bounds its fuel. -/
def scan (input : Input) : Document × Bool :=
  match scanValue (2 * input.length + 2) input with
  | (document, some rest) => (document, (skipBlanks rest).isEmpty)
  | (document, none) => (document, false)

/-! ## Whole trees -/

mutual

/-- Whether the tree holds no syntax error: all that a value that is passed over has to meet. -/
def isWhole : Document → Bool
  | .broken => false
  | .array items closed => closed && areWhole items
  | .object members closed => closed && membersWhole members
  | _ => true

def areWhole : List Document → Bool
  | [] => true
  | item :: rest => isWhole item && areWhole rest

def membersWhole : List (Option String × Document) → Bool
  | [] => true
  | (_, value) :: rest => isWhole value && membersWhole rest

end

mutual

/-- The value of a tree that is used as it stands, with members sorted by name and the last of
equally named ones kept.  `depth` bounds the containers that may still be opened. -/
def toJson? (depth : Nat) : Document → Option Json
  | .broken => none
  | .null => some .null
  | .bool value => some (.bool value)
  | .integer value => some (.integer value)
  | .decimal literal finite => if finite then some (.decimal literal) else none
  | .string text => text.map .string
  | .array items closed =>
    if depth = 0 ∨ ¬closed then none else (itemsToJson? (depth - 1) items).map .array
  | .object members closed =>
    if depth = 0 ∨ ¬closed then none
    else (membersToJson? (depth - 1) members).map fun members ↦
      .object (members.foldl (fun sorted (name, value) ↦ insertSorted name value sorted) [])

def itemsToJson? (depth : Nat) : List Document → Option (List Json)
  | [] => some []
  | item :: rest =>
    match toJson? depth item, itemsToJson? depth rest with
    | some item, some rest => some (item :: rest)
    | _, _ => none

def membersToJson? (depth : Nat) : List (Option String × Document) → Option (List (String × Json))
  | [] => some []
  | (name, value) :: rest =>
    match name, toJson? depth value, membersToJson? depth rest with
    | some name, some value, some rest => some ((name, value) :: rest)
    | _, _, _ => none

end

mutual

/-- The tree of a value. -/
def ofJson : Json → Document
  | .null => .null
  | .bool value => .bool value
  | .integer value => .integer value
  | .decimal literal => .decimal literal true
  | .string text => .string (some text)
  | .array items => .array (ofItems items) true
  | .object members => .object (ofMembers members) true

def ofItems : List Json → List Document
  | [] => []
  | item :: rest => ofJson item :: ofItems rest

def ofMembers : List (String × Json) → List (Option String × Document)
  | [] => []
  | (name, value) :: rest => (some name, ofJson value) :: ofMembers rest

end

end Document

end ContainerConstruction.Json
