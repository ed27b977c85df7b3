import ContainerConstruction.Text.Unprintable

/-!
# Text between double quotes

Diagnostics quote names and paths so that every character of them can be read back: a quote and a
backslash are escaped, the common controls have letters, and what cannot be seen is written by its
code point.
-/

namespace ContainerConstruction.Text

def hexadecimal (value : Nat) : String := String.ofList (Nat.toDigits 16 value)

def octal (value : Nat) : String := String.ofList (Nat.toDigits 8 value)

def quoteChar (c : Char) : List Char :=
  if c = '"' then ['\\', '"']
  else if c = '\\' then ['\\', '\\']
  else if c = '\n' then ['\\', 'n']
  else if c = '\r' then ['\\', 'r']
  else if c = '\t' then ['\\', 't']
  else if c = '\x00' then ['\\', '0']
  else if isUnprintable c then
    ['\\', 'u', '\x7b'] ++ (hexadecimal c.toNat).toList ++ ['\x7d']
  else [c]

/-- A text in double quotes. -/
def quoted (text : String) : String :=
  String.ofList ('"' :: text.toList.flatMap quoteChar ++ ['"'])

end ContainerConstruction.Text
