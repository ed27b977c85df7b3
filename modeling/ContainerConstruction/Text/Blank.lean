/-!
# White space

The Unicode property White_Space, and the text without it at both ends.  It is wider than the blanks
of a JSON document and than the separators of the shell, which have rules of their own.
-/

namespace ContainerConstruction.Text

/-- The Unicode property White_Space. -/
def isBlank (c : Char) : Bool :=
  let code := c.toNat
  (9 ≤ code && code ≤ 13) || code == 32 || code == 0x85 || code == 0xA0 || code == 0x1680
    || (0x2000 ≤ code && code ≤ 0x200A) || code == 0x2028 || code == 0x2029 || code == 0x202F
    || code == 0x205F || code == 0x3000

def isAllBlank (text : String) : Bool := text.toList.all isBlank

def trimmed (text : String) : String :=
  String.ofList ((text.toList.dropWhile isBlank).reverse.dropWhile isBlank).reverse

end ContainerConstruction.Text
