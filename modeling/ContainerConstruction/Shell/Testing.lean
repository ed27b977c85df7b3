import ContainerConstruction.Host.Files

/-!
# Conditions of the shell

What `test` finds out about texts, numbers and files.
-/

namespace ContainerConstruction.Shell.Testing

def nodeAt (who : Host.Accessor) (host : Host) (follow : Bool) (path : String) : Option Node :=
  match Lookup.find host.tree who.identity who.place.directory follow path with
  | .ok (_, node) => some node
  | .error _ => none

/-- Whether a file holds something. -/
def isFilled (node : Node) : Bool :=
  match node.kind with
  | .file content => !content.isEmpty
  | _ => true

def isRegular (node : Node) : Bool :=
  match node.kind with
  | .file _ | .tool _ => true
  | _ => false

def isLink (node : Node) : Bool :=
  match node.kind with
  | .link _ => true
  | _ => false

/-- A condition on one text. -/
def unary (who : Host.Accessor) (host : Host) (operator text : String) : Option Bool :=
  let onNode (holds : Node → Bool) : Option Bool := some (((nodeAt who host true text).map holds).getD false)
  match operator with
  | "-n" => some (!text.isEmpty)
  | "-z" => some text.isEmpty
  | "-e" => onNode fun _ ↦ true
  | "-f" => onNode isRegular
  | "-d" => onNode Node.isDirectory
  | "-s" => onNode isFilled
  | "-S" => onNode fun node ↦ node.kind = .socket
  | "-r" => onNode (Host.permits who .read)
  | "-w" => onNode (Host.permits who .write)
  | "-x" => onNode (Host.permits who .enter)
  | "-L" | "-h" => some (((nodeAt who host false text).map isLink).getD false)
  | _ => none

def number (text : String) : Except String Int :=
  match text.toInt? with
  | some value => .ok value
  | none => .error s!"Illegal number: {text}"

/-- A condition on two texts. -/
def binary (left operator right : String) : Except String Bool :=
  let onNumbers (holds : Int → Int → Bool) : Except String Bool := do
    return holds (← number left) (← number right)
  match operator with
  | "=" => .ok (left = right)
  | "!=" => .ok (left ≠ right)
  | "-eq" => onNumbers (· = ·)
  | "-ne" => onNumbers (· ≠ ·)
  | "-lt" => onNumbers (· < ·)
  | "-le" => onNumbers (· ≤ ·)
  | "-gt" => onNumbers (· > ·)
  | "-ge" => onNumbers (· ≥ ·)
  | "-a" => .ok (!left.isEmpty && !right.isEmpty)
  | "-o" => .ok (!left.isEmpty || !right.isEmpty)
  | _ => .error s!"{operator}: unexpected operator"

/-- What stands in front of a text and behind it. -/
def splitAt? (text : String) (arguments : List String) : Option (List String × List String) :=
  match arguments.span (· ≠ text) with
  | (_, []) => none
  | (front, _ :: back) => some (front, back)

/-- Whether a condition holds, or what is wrong with it. -/
def evaluate (who : Host.Accessor) (host : Host) : (fuel : Nat) → List String → Except String Bool
  | 0, _ | _ + 1, [] => .ok false
  | _ + 1, [text] => .ok (!text.isEmpty)
  | fuel + 1, "!" :: rest => (evaluate who host fuel rest).map (!·)
  | _ + 1, [operator, text] =>
    match unary who host operator text with
    | some holds => .ok holds
    | none => .error s!"{operator}: unexpected operator"
  | _ + 1, [left, operator, right] => binary left operator right
  | fuel + 1, arguments =>
    match splitAt? "-o" arguments, splitAt? "-a" arguments with
    | some (front, back), _ => do
      let first ← evaluate who host fuel front
      let second ← evaluate who host fuel back
      return first || second
    | none, some (front, back) => do
      let first ← evaluate who host fuel front
      let second ← evaluate who host fuel back
      return first && second
    | none, none => .error (arguments.head?.getD "" ++ ": unexpected operator")

end ContainerConstruction.Shell.Testing
