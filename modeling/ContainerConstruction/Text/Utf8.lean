/-!
# UTF-8 as received

Bytes from a socket, a file or a tool need not be UTF-8.  `decode` keeps what is readable and marks
every maximal ill-formed piece, so that a reader can refuse such a piece where it matters and pass
over it where it does not.  The module holds no encoder: characters are encoded by the core library.
-/

namespace ContainerConstruction.Text.Utf8

/-- A sequence of several bytes that has begun. -/
structure Begun where
  /-- The bits read so far. -/
  bits : Nat
  /-- How many bytes follow the next one. -/
  others : Nat
  /-- The bounds of the next byte: these exclude overlong forms, surrogates and what lies beyond
  U+10FFFF. -/
  lowest : UInt8
  highest : UInt8

/-- What a byte at the beginning of a sequence gives: a character or ill-formed piece of its own, or
a sequence that has begun. -/
def lead (byte : UInt8) : Option Char ⊕ Begun :=
  if byte < 0x80 then .inl (some (Char.ofNat byte.toNat))
  else if byte < 0xC2 then .inl none
  else if byte < 0xE0 then .inr ⟨byte.toNat % 32, 0, 0x80, 0xBF⟩
  else if byte == 0xE0 then .inr ⟨0, 1, 0xA0, 0xBF⟩
  else if byte == 0xED then .inr ⟨13, 1, 0x80, 0x9F⟩
  else if byte < 0xF0 then .inr ⟨byte.toNat % 16, 1, 0x80, 0xBF⟩
  else if byte == 0xF0 then .inr ⟨0, 2, 0x90, 0xBF⟩
  else if byte < 0xF4 then .inr ⟨byte.toNat % 8, 2, 0x80, 0xBF⟩
  else if byte == 0xF4 then .inr ⟨4, 2, 0x80, 0x8F⟩
  else .inl none

/-- The characters of the bytes that follow the begun sequence, if there is one. -/
def decodeFrom : Option Begun → List UInt8 → List (Option Char)
  | none, [] => []
  | some _, [] => [none]
  | none, byte :: rest =>
    match lead byte with
    | .inl piece => piece :: decodeFrom none rest
    | .inr begun => decodeFrom (some begun) rest
  | some begun, byte :: rest =>
    if begun.lowest ≤ byte ∧ byte ≤ begun.highest then
      let bits := begun.bits * 64 + byte.toNat % 64
      match begun.others with
      | 0 => some (Char.ofNat bits) :: decodeFrom none rest
      | others + 1 => decodeFrom (some ⟨bits, others, 0x80, 0xBF⟩) rest
    else
      none :: match lead byte with
        | .inl piece => piece :: decodeFrom none rest
        | .inr begun => decodeFrom (some begun) rest

/-- The characters of a byte sequence; `none` stands for one maximal piece that is no UTF-8. -/
def decode (bytes : List UInt8) : List (Option Char) := decodeFrom none bytes

/-- The characters, if every piece is one. -/
def allChars : List (Option Char) → Option (List Char)
  | [] => some []
  | none :: _ => none
  | some c :: rest => (allChars rest).map (c :: ·)

def toText? (bytes : List UInt8) : Option String := (allChars (decode bytes)).map String.ofList

/-- The text of any bytes, each ill-formed piece shown as U+FFFD. -/
def toTextLossy (bytes : List UInt8) : String :=
  String.ofList ((decode bytes).map (·.getD '\uFFFD'))

def ofText (text : String) : List UInt8 := text.toUTF8.toList

end ContainerConstruction.Text.Utf8
