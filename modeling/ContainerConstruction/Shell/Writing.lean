import ContainerConstruction.Text.Utf8

/-!
# What the shell writes

The built-in commands that write their arguments, with the escapes they know.  An escape may stand for
a byte that no character has, so what is written is bytes.
-/

namespace ContainerConstruction.Shell.Writing

/-- The byte of an escape with a letter. -/
def letterByte? (c : Char) : Option UInt8 :=
  [('a', 7), ('b', 8), ('f', 12), ('n', 10), ('r', 13), ('t', 9), ('v', 11), ('\\', 92)].lookup c

def isOctal (c : Char) : Bool := '0' ≤ c && c ≤ '7'

def octalValue (digits : List Char) : UInt8 :=
  UInt8.ofNat (digits.foldl (fun value c ↦ value * 8 + (c.toNat - 48)) 0)

/-- The bytes of a text with escapes, and whether one of them ends all writing.  A byte may be given in
octal, with a leading zero if `zero` says so. -/
def unescaped (zero : Bool) : (fuel : Nat) → List Char → List UInt8 × Bool
  | 0, _ => ([], false)
  | _ + 1, [] => ([], false)
  | fuel + 1, '\\' :: c :: rest =>
    match letterByte? c with
    | some byte => let (bytes, ends) := unescaped zero fuel rest; (byte :: bytes, ends)
    | none =>
      if c = 'c' && zero then ([], true)
      else if isOctal c && (!zero || c = '0') then
        let text := if zero then rest else c :: rest
        let digits := (text.take 3).takeWhile isOctal
        let (bytes, ends) := unescaped zero fuel (text.drop digits.length)
        (octalValue digits :: bytes, ends)
      else
        let (bytes, ends) := unescaped zero fuel rest
        (92 :: Text.Utf8.ofText (String.singleton c) ++ bytes, ends)
  | fuel + 1, c :: rest =>
    let (bytes, ends) := unescaped zero fuel rest
    (Text.Utf8.ofText (String.singleton c) ++ bytes, ends)

/-- The bytes of a text with escapes that may end all writing. -/
def unescapedArgument (text : String) : List UInt8 × Bool :=
  unescaped true (text.toList.length + 1) text.toList

/-- The arguments with blanks between them and a newline behind, unless an escape ends the writing. -/
def echoed (newline : Bool) : List String → List UInt8
  | [] => if newline then [10] else []
  | [text] =>
    let (bytes, ends) := unescapedArgument text
    if ends || !newline then bytes else bytes ++ [10]
  | text :: rest =>
    let (bytes, ends) := unescapedArgument text
    if ends then bytes else bytes ++ 32 :: echoed newline rest

def echo : List String → List UInt8
  | "-n" :: arguments => echoed false arguments
  | arguments => echoed true arguments

/-- Writes a format once, and gives the arguments that it did not use. -/
def formatOnce : (fuel : Nat) → List Char → List String → List UInt8 × List String
  | 0, _, arguments => ([], arguments)
  | _ + 1, [], arguments => ([], arguments)
  | fuel + 1, '%' :: '%' :: rest, arguments =>
    let (bytes, arguments) := formatOnce fuel rest arguments
    (37 :: bytes, arguments)
  | fuel + 1, '%' :: c :: rest, arguments =>
    let text := arguments.head?.getD ""
    let shown :=
      if c = 'b' then (unescapedArgument text).1
      else if c = 'd' || c = 'i' || c = 'u' then
        Text.Utf8.ofText (if text.isEmpty then "0" else text)
      else if c = 'c' then Text.Utf8.ofText (String.ofList (text.toList.take 1))
      else Text.Utf8.ofText text
    let (bytes, arguments) := formatOnce fuel rest arguments.tail
    (shown ++ bytes, arguments)
  | fuel + 1, '\\' :: c :: rest, arguments =>
    let escape := if isOctal c then c :: (rest.take 2).takeWhile isOctal else [c]
    let (shown, _) := unescaped false 4 ('\\' :: escape)
    let (bytes, arguments) := formatOnce fuel (rest.drop (escape.length - 1)) arguments
    (shown ++ bytes, arguments)
  | fuel + 1, c :: rest, arguments =>
    let (bytes, arguments) := formatOnce fuel rest arguments
    (Text.Utf8.ofText (String.singleton c) ++ bytes, arguments)

/-- Writes a format as often as the arguments last. -/
def formatAll : (fuel : Nat) → List Char → List String → List UInt8
  | 0, _, _ => []
  | fuel + 1, format, arguments =>
    let (bytes, left) := formatOnce (format.length + 1) format arguments
    if left.isEmpty || left.length = arguments.length then bytes
    else bytes ++ formatAll fuel format left

def printf : List String → List UInt8
  | [] => []
  | format :: arguments => formatAll (arguments.length + 1) format.toList arguments

end ContainerConstruction.Shell.Writing
