/-!
# Shell arithmetic

Expressions over integers of 64 bits with the operators of the shell.  `Arithmetic.evaluate` reads and
evaluates an expression in one go, operator by operator in the order of their strength; names stand for
the values they are given.
-/

namespace ContainerConstruction.Shell.Arithmetic

/-- The integer of 64 bits that a result becomes. -/
def wrapped (value : Int) : Int := Int.bmod value 18446744073709551616

/-- The number a condition is. -/
def ofCondition (holds : Bool) : Int := if holds then 1 else 0

/-- Why an expression has no value. -/
inductive Defect where
  | malformed
  | divisionByZero
  deriving DecidableEq, Repr

namespace Defect

def message (expression : String) : Defect → String
  | .malformed => s!"arithmetic expression: expecting primary: \"{expression}\""
  | .divisionByZero => s!"arithmetic expression: division by zero: \"{expression}\""

end Defect

/-- What reading part of an expression gives: its value, and what stands behind it. -/
abbrev Partial : Type := Except Defect (Int × List Char)

def skipBlanks (text : List Char) : List Char := text.dropWhile " \t\n".toList.contains

/-- The operators with two sides, the weakest level first; a longer one comes before its beginning. -/
def levels : List (List String) :=
  [["||"], ["&&"], ["|"], ["^"], ["&"], ["==", "!="], ["<=", ">=", "<", ">"], ["<<", ">>"], ["+", "-"],
    ["*", "/", "%"]]

/-- The operators of more than one character. -/
def longOperators : List String := ["||", "&&", "==", "!=", "<=", ">=", "<<", ">>"]

def operatorAt (text : List Char) : Option (String × List Char) :=
  match longOperators.find? (·.toList.isPrefixOf text) with
  | some operator => some (operator, text.drop operator.length)
  | none =>
    match text with
    | c :: rest => if "|^&<>+-*/%".toList.contains c then some (String.singleton c, rest) else none
    | [] => none

/-- The value of an operator with two sides. -/
def apply (operator : String) (left right : Int) : Except Defect Int :=
  match operator with
  | "||" => .ok (ofCondition (left ≠ 0 || right ≠ 0))
  | "&&" => .ok (ofCondition (left ≠ 0 && right ≠ 0))
  | "|" => .ok ((Int64.ofInt left ||| Int64.ofInt right).toInt)
  | "^" => .ok ((Int64.ofInt left ^^^ Int64.ofInt right).toInt)
  | "&" => .ok ((Int64.ofInt left &&& Int64.ofInt right).toInt)
  | "==" => .ok (ofCondition (left = right))
  | "!=" => .ok (ofCondition (left ≠ right))
  | "<=" => .ok (ofCondition (left ≤ right))
  | ">=" => .ok (ofCondition (left ≥ right))
  | "<" => .ok (ofCondition (left < right))
  | ">" => .ok (ofCondition (left > right))
  | "<<" => .ok ((Int64.ofInt left <<< Int64.ofInt right).toInt)
  | ">>" => .ok ((Int64.ofInt left >>> Int64.ofInt right).toInt)
  | "+" => .ok (wrapped (left + right))
  | "-" => .ok (wrapped (left - right))
  | "*" => .ok (wrapped (left * right))
  | "/" => if right = 0 then .error .divisionByZero else .ok (wrapped (left.tdiv right))
  | _ => if right = 0 then .error .divisionByZero else .ok (left.tmod right)

def ofDigits (base : Nat) (digits : List Char) : Int :=
  digits.foldl (fun value c ↦
    value * base + (if c.isDigit then c.toNat - 48 else c.toLower.toNat - 87)) (0 : Nat)

def isHexDigit (c : Char) : Bool := c.isDigit || ('a' ≤ c.toLower && c.toLower ≤ 'f')

/-- The value of a number: hexadecimal or octal if it begins so. -/
def number : List Char → Int × List Char
  | '0' :: 'x' :: rest => (ofDigits 16 (rest.takeWhile isHexDigit), rest.dropWhile isHexDigit)
  | '0' :: rest => (ofDigits 8 (rest.takeWhile Char.isDigit), rest.dropWhile Char.isDigit)
  | text => (ofDigits 10 (text.takeWhile Char.isDigit), text.dropWhile Char.isDigit)

def inName (c : Char) : Bool := c.isAlphanum || c = '_'

mutual

/-- Reads a whole expression: a condition with two alternatives, or something without. -/
def choice (value? : String → Int) : (fuel : Nat) → List Char → Partial
  | 0, _ => .error .malformed
  | fuel + 1, text => do
    let (test, rest) ← binary value? fuel levels text
    match skipBlanks rest with
    | '?' :: rest => do
      let (first, rest) ← choice value? fuel rest
      match skipBlanks rest with
      | ':' :: rest => do
        let (second, rest) ← choice value? fuel rest
        return (if test ≠ 0 then first else second, rest)
      | _ => throw .malformed
    | rest => return (test, rest)

/-- Reads operators of the given levels. -/
def binary (value? : String → Int) : (fuel : Nat) → List (List String) → List Char → Partial
  | 0, _, _ => .error .malformed
  | fuel + 1, [], text => unary value? fuel text
  | fuel + 1, level :: stronger, text => do
    let (left, rest) ← binary value? fuel stronger text
    continueLevel value? fuel level stronger left rest

/-- Reads on behind the left side of an operator. -/
def continueLevel (value? : String → Int) :
    (fuel : Nat) → List String → List (List String) → Int → List Char → Partial
  | 0, _, _, _, _ => .error .malformed
  | fuel + 1, level, stronger, left, text =>
    match operatorAt (skipBlanks text) with
    | none => .ok (left, text)
    | some (operator, rest) =>
      if level.contains operator then do
        let (right, rest) ← binary value? fuel stronger rest
        continueLevel value? fuel level stronger (← apply operator left right) rest
      else .ok (left, text)

/-- Reads what operators stand between. -/
def unary (value? : String → Int) : (fuel : Nat) → List Char → Partial
  | 0, _ => .error .malformed
  | fuel + 1, text =>
    match skipBlanks text with
    | '-' :: rest => (unary value? fuel rest).map fun (value, rest) ↦ (wrapped (-value), rest)
    | '+' :: rest => unary value? fuel rest
    | '!' :: rest => (unary value? fuel rest).map fun (value, rest) ↦ (ofCondition (value = 0), rest)
    | '~' :: rest => (unary value? fuel rest).map fun (value, rest) ↦ (-value - 1, rest)
    | '(' :: rest => do
      let (value, rest) ← choice value? fuel rest
      match skipBlanks rest with
      | ')' :: rest => return (value, rest)
      | _ => throw .malformed
    | c :: rest =>
      if c.isDigit then .ok (number (c :: rest))
      else if inName c then
        .ok (value? (String.ofList (c :: rest.takeWhile inName)), rest.dropWhile inName)
      else .error .malformed
    | [] => .error .malformed

end

def evaluate (value? : String → Int) (expression : String) : Except Defect Int :=
  let text := expression.toList
  if (skipBlanks text).isEmpty then .ok 0
  else
    match choice value? (16 * text.length + 16) text with
    | .error defect => .error defect
    | .ok (value, rest) => if (skipBlanks rest).isEmpty then .ok value else .error .malformed

end ContainerConstruction.Shell.Arithmetic
