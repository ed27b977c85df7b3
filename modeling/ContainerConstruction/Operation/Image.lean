import ContainerConstruction.Kernel.Interface
import ContainerConstruction.Text.Quoted

/-!
# Image references

An image is given by a path or, in a form of its own, by a descriptor that is already open.  Such a
descriptor is used as it is, without a look at any path.
-/

namespace ContainerConstruction

/-- Where an image comes from. -/
inductive ImageSource where
  /-- A descriptor that is open already. -/
  | inherited (descriptor : Nat)
  | path (path : String)
  deriving DecidableEq, Repr

namespace ImageSource

def descriptorPrefix : String := "/proc/self/fd/"

def maximalDescriptor : Nat := 2147483647

def decimal (digits : List Char) : Nat :=
  digits.foldl (fun value digit ↦ value * 10 + (digit.toNat - 48)) 0

/-- The number behind the prefix of a descriptor. -/
def descriptor? (suffix : List Char) : Option Nat :=
  if suffix.isEmpty || !suffix.all (fun c ↦ '0' ≤ c && c ≤ '9') then none
  else if maximalDescriptor < decimal suffix then none
  else some (decimal suffix)

/-- Reads a reference: behind the prefix only a decimal descriptor may stand, and all else is a path. -/
def ofReference (reference : String) : Except Failure ImageSource :=
  if descriptorPrefix.toList.isPrefixOf reference.toList then
    match descriptor? (reference.toList.drop descriptorPrefix.length) with
    | some number => .ok (.inherited number)
    | none => .error (.config s!"invalid image file descriptor in {Text.quoted reference}")
  else .ok (.path reference)

def name : ImageSource → String
  | .inherited number => s!"{descriptorPrefix}{number}"
  | .path file => file

/-- Whether the flags of a mode ask for writing. -/
def isWritable (mode : Int32) : Bool := mode &&& 3 == 2

/-- Opens an image.  Of the access bits of the mode only the one for writing counts; the other bits go
along as they are. -/
def openImage (mode : Int32) : ImageSource → Operation Descriptor
  | .inherited number => do
    let answer ← Operation.ask (.checkDescriptor ⟨number⟩)
    Operation.check
      (fun errno ↦ .device s!"image descriptor {number} is not open: {errno.namedText}") answer
    return ⟨number⟩
  | .path file => do
    let answer ← Operation.ask (.openImage file (isWritable mode) (mode &&& ~~~3))
    Operation.check (fun cause ↦ .io file cause) answer

end ImageSource

end ContainerConstruction
