import ContainerConstruction.Json.Document

/-!
# Reading typed values

A `Reader` turns a document into a value of a type and names the first thing wrong with it, in the
order of the text: a misplaced value is reported where it stands, a missing member at the end of its
object, the first declared one first.  Of all defects only three are told apart, since only these say
something about the vocabulary of the document: a member that is missing, a member that occurs twice,
and a name that is none of the known ones.

Objects may be written as arrays of their members in declared order.  A part that had to be set aside
until the tag in front of which it stood was known is read back from memory; there the form of a
value is judged a little differently, which `Position.buffered` records.
-/

namespace ContainerConstruction.Json

/-- What is wrong with a document. -/
inductive ReadError where
  | missingField (name : String)
  | duplicateField (name : String)
  | unknownVariant (found : String) (expected : List String)
  | invalid
  deriving DecidableEq, Repr

namespace ReadError

/-- A name in backquotes. -/
def quote (name : String) : String := s!"\x60{name}\x60"

/-- The choice between names. -/
def choice : List String → String
  | [] => "there are no variants"
  | [only] => s!"expected {quote only}"
  | [one, other] => s!"expected {quote one} or {quote other}"
  | names => "expected one of " ++ ", ".intercalate (names.map quote)

/-- A defect in short, on one line.  Where it stands is left out, and so is what follows a line break in a
name.  Whoever reads the document may have more to say than that: see `Methods.wording`. -/
def message (error : ReadError) : String :=
  let full := match error with
    | .missingField name => s!"missing field {quote name}"
    | .duplicateField name => s!"duplicate field {quote name}"
    | .unknownVariant found expected => s!"unknown variant {quote found}, {choice expected}"
    | .invalid => "invalid"
  String.ofList (full.toList.takeWhile (· ≠ '\n'))

end ReadError

/-- Where a value stands. -/
structure Position where
  /-- The number of containers that may still be opened. -/
  depth : Nat
  /-- Whether the value was set aside before it was read. -/
  buffered : Bool

namespace Position

/-- Containers may be nested this deep. -/
def maximalDepth : Nat := 127

def top : Position := ⟨maximalDepth, false⟩

/-- The place of a value that is held in memory. -/
def memory : Position := ⟨maximalDepth, true⟩

/-- The place inside a container.  The bound was checked when a part was set aside. -/
def enter (position : Position) : Except ReadError Position :=
  if position.buffered then .ok position
  else if position.depth = 0 then .error .invalid
  else .ok { position with depth := position.depth - 1 }

end Position

/-- Reads a value of a type at a place. -/
abbrev Reader (α : Type) : Type := Position → Document → Except ReadError α

namespace Reader

/-! ## Plain values -/

def string : Reader String := fun _ document ↦
  match document with
  | .string (some text) => .ok text
  | _ => .error .invalid

def bool : Reader Bool := fun _ document ↦
  match document with
  | .bool value => .ok value
  | _ => .error .invalid

/-- An integer of a closed range. -/
def integer (lowest highest : Int) : Reader Int := fun _ document ↦
  match document with
  | .integer value => if lowest ≤ value ∧ value ≤ highest then .ok value else .error .invalid
  | _ => .error .invalid

def uint8 : Reader UInt8 := fun position document ↦
  (integer 0 255 position document).map fun value ↦ UInt8.ofNat value.toNat

def uint32 : Reader UInt32 := fun position document ↦
  (integer 0 4294967295 position document).map fun value ↦ UInt32.ofNat value.toNat

def uint64 : Reader UInt64 := fun position document ↦
  (integer 0 18446744073709551615 position document).map fun value ↦ UInt64.ofNat value.toNat

def int32 : Reader Int32 := fun position document ↦
  (integer (-2147483648) 2147483647 position document).map Int32.ofInt

/-- Any value, used as it stands. -/
def json : Reader Json := fun position document ↦
  match document.toJson? position.depth with
  | some value => .ok value
  | none => .error .invalid

def optional {α : Type} (read : Reader α) : Reader (Option α) := fun position document ↦
  match document with
  | .null => .ok none
  | _ => (read position document).map some

/-- Reads items one after the other, up to the first defect. -/
def items {α : Type} (read : Reader α) (position : Position) :
    List Document → Except ReadError (List α)
  | [] => .ok []
  | item :: rest =>
    match read position item with
    | .error error => .error error
    | .ok value => (items read position rest).map (value :: ·)

def list {α : Type} (read : Reader α) : Reader (List α) := fun position document ↦
  match document with
  | .array documents closed =>
    match position.enter with
    | .error error => .error error
    | .ok inside =>
      match items read inside documents with
      | .error error => .error error
      | .ok values => if closed then .ok values else .error .invalid
  | _ => .error .invalid

/-! ## Records -/

/-- The members of a record in declared order, each with its reader, the value that stands for an
absent one if there is such a value, and what has been found so far.  `done` holds the function that
builds the record from the members, the last declared one first. -/
inductive Fields : Type → Type 1 where
  | done {α : Type} (build : α) : Fields α
  | field {α β : Type} (name : String) (read : Reader β) (absent : Option β) (found : Option β)
      (rest : Fields (β → α)) : Fields α

namespace Fields

/-- A member that has to be present. -/
def required {α β : Type} (name : String) (read : Reader β) (rest : Fields (β → α)) : Fields α :=
  .field name read none none rest

/-- A member that may be absent. -/
def defaulting {α β : Type} (name : String) (read : Reader β) (absent : β) (rest : Fields (β → α)) :
    Fields α :=
  .field name read (some absent) none rest

/-- Takes a member of the document.  One that no field is named for is passed over. -/
def put (position : Position) (name : String) (document : Document) :
    {α : Type} → Fields α → Except ReadError (Fields α)
  | _, .done build => if document.isWhole then .ok (.done build) else .error .invalid
  | _, .field own read absent found rest =>
    if name = own then
      match found with
      | some _ => .error (.duplicateField own)
      | none =>
        match read position document with
        | .error error => .error error
        | .ok value => .ok (.field own read absent (some value) rest)
    else
      match put position name document rest with
      | .error error => .error error
      | .ok rest => .ok (.field own read absent found rest)

/-- Takes members in the order of the document. -/
def putAll (position : Position) {α : Type} :
    Fields α → List (Option String × Document) → Except ReadError (Fields α)
  | fields, [] => .ok fields
  | _, (none, _) :: _ => .error .invalid
  | fields, (some name, document) :: rest =>
    match fields.put position name document with
    | .error error => .error error
    | .ok fields => putAll position fields rest

/-- The record, once all members of the document have been taken. -/
def finish : {α : Type} → Fields α → Except ReadError α
  | _, .done build => .ok build
  | _, .field name _ absent found rest =>
    match found.or absent with
    | none => .error (.missingField name)
    | some value => (finish rest).map (· value)

/-- The record written as an array, and the items left over. -/
def ofItems (position : Position) :
    {α : Type} → Fields α → List Document → Except ReadError (α × List Document)
  | _, .done build, documents => .ok (build, documents)
  | _, .field _ _ absent _ rest, [] =>
    match absent with
    | none => .error .invalid
    | some value => (ofItems position rest []).map fun (build, left) ↦ (build value, left)
  | _, .field _ read _ _ rest, document :: documents =>
    match read position document with
    | .error error => .error error
    | .ok value =>
      (ofItems position rest documents).map fun (build, left) ↦ (build value, left)

end Fields

/-- A record as an object or as an array of its members. -/
def record {α : Type} (fields : Fields α) : Reader α := fun position document ↦
  match document with
  | .object members closed =>
    match position.enter with
    | .error error => .error error
    | .ok inside =>
      match fields.putAll inside members with
      | .error error => .error error
      | .ok fields => if closed then fields.finish else .error .invalid
  | .array documents closed =>
    match position.enter with
    | .error error => .error error
    | .ok inside =>
      match fields.ofItems inside documents with
      | .error error => .error error
      | .ok (value, left) => if closed ∧ left.isEmpty then .ok value else .error .invalid
  | _ => .error .invalid

/-! ## Variants -/

/-- One of several named forms of a value: just its name, or a name with a value of its own. -/
inductive Variant (α : Type) where
  | bare (value : α)
  | carrying (read : Reader α)

/-- The variant of a name. -/
def selectVariant {α : Type} (variants : List (String × α)) (name : String) : Except ReadError α :=
  match variants.find? (·.1 = name) with
  | some (_, variant) => .ok variant
  | none => .error (.unknownVariant name (variants.map (·.1)))

/-- Whether a document may stand for the missing value of a bare variant. -/
def isNothing (position : Position) : Document → Bool
  | .null => true
  | .object [] true => position.buffered
  | _ => false

/-- The value that a variant's own document gives. -/
def ofVariant {α : Type} (position : Position) (document : Document) :
    Variant α → Except ReadError α
  | .bare value => if isNothing position document then .ok value else .error .invalid
  | .carrying read => read position document

/-- A variant as a text, for a bare one, or as an object with the name as its only member. -/
def variant {α : Type} (variants : List (String × Variant α)) : Reader α := fun position document ↦
  match document with
  | .string (some name) =>
    match selectVariant variants name with
    | .error error => .error error
    | .ok (.bare value) => .ok value
    | .ok (.carrying _) => .error .invalid
  | .object members closed =>
    match position.enter with
    | .error error => .error error
    | .ok inside =>
      match members with
      | (some name, value) :: others =>
        if position.buffered ∧ ¬others.isEmpty then .error .invalid
        else
          match selectVariant variants name with
          | .error error => .error error
          | .ok variant =>
            match ofVariant inside value variant with
            | .error error => .error error
            | .ok result => if closed ∧ others.isEmpty then .ok result else .error .invalid
      | _ => .error .invalid
  | _ => .error .invalid

/-- A name out of a fixed choice. -/
def choice {α : Type} (names : List (String × α)) : Reader α :=
  variant (names.map fun (name, value) ↦ (name, .bare value))

/-! ## Tagged values -/

/-- How far the two members of a tagged value have been met. -/
inductive TaggedState (α : Type) where
  | empty
  | tag (read : Reader α)
  | content (document : Document)
  | both (value : α)

/-- Takes a member of a tagged value.  Content in front of its tag is set aside whole. -/
def takeTagged {α : Type} (tag content : String) (variants : List (String × Reader α))
    (position : Position) (name : String) (document : Document) :
    TaggedState α → Except ReadError (TaggedState α)
  | .empty =>
    if name = tag then (choice variants position document).map .tag
    else if name = content then
      if (document.toJson? position.depth).isSome then .ok (.content document) else .error .invalid
    else if document.isWhole then .ok .empty else .error .invalid
  | .tag read =>
    if name = tag then .error (.duplicateField tag)
    else if name = content then (read position document).map .both
    else if document.isWhole then .ok (.tag read) else .error .invalid
  | .content aside =>
    if name = tag then
      match choice variants position document with
      | .error error => .error error
      | .ok read => (read { position with buffered := true } aside).map .both
    else if name = content then .error (.duplicateField content)
    else if document.isWhole then .ok (.content aside) else .error .invalid
  | .both value =>
    if name = tag then .error (.duplicateField tag)
    else if name = content then .error (.duplicateField content)
    else if document.isWhole then .ok (.both value) else .error .invalid

/-- Takes the members of a tagged value in the order of the document. -/
def takeAllTagged {α : Type} (tag content : String) (variants : List (String × Reader α))
    (position : Position) :
    TaggedState α → List (Option String × Document) → Except ReadError (TaggedState α)
  | state, [] => .ok state
  | _, (none, _) :: _ => .error .invalid
  | state, (some name, document) :: rest =>
    match takeTagged tag content variants position name document state with
    | .error error => .error error
    | .ok state => takeAllTagged tag content variants position state rest

/-- A value with its variant's name in one member and its content in another, or as the array of the
two. -/
def tagged {α : Type} (tag content : String) (variants : List (String × Reader α)) : Reader α :=
  fun position document ↦
  match document with
  | .object members closed =>
    match position.enter with
    | .error error => .error error
    | .ok inside =>
      match takeAllTagged tag content variants inside .empty members with
      | .error error => .error error
      | .ok state =>
        if closed then
          match state with
          | .empty | .content _ => .error (.missingField tag)
          | .tag _ => .error (.missingField content)
          | .both value => .ok value
        else .error .invalid
  | .array (first :: others) closed =>
    match position.enter with
    | .error error => .error error
    | .ok inside =>
      match first with
      | .string (some name) =>
        match selectVariant variants name with
        | .error error => .error error
        | .ok read =>
          match others with
          | [second] =>
            match read inside second with
            | .error error => .error error
            | .ok value => if closed then .ok value else .error .invalid
          | second :: _ =>
            match read inside second with
            | .error error => .error error
            | .ok _ => .error .invalid
          | [] => .error .invalid
      | _ => .error .invalid
  | _ => .error .invalid

/-! ## Documents -/

/-- Reads a whole input. -/
def ofInput {α : Type} (read : Reader α) (input : Input) : Except ReadError α :=
  let (document, complete) := Document.scan input
  match read .top document with
  | .error error => .error error
  | .ok value => if complete then .ok value else .error .invalid

def ofText {α : Type} (read : Reader α) (text : String) : Except ReadError α :=
  read.ofInput (text.toList.map some)

/-- Reads a value that is held in memory. -/
def ofJson {α : Type} (read : Reader α) (value : Json) : Except ReadError α :=
  read .memory (Document.ofJson value)

end Reader

end ContainerConstruction.Json
