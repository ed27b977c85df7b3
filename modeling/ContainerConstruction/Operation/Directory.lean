import ContainerConstruction.Kernel.Interface
import ContainerConstruction.Request.Basic

/-!
# Directories

A directory is created with the mode that was asked for, whatever bits the thread withholds from new
files otherwise, and the withheld bits are the same afterwards.
-/

namespace ContainerConstruction

/-- Creates a directory.  Only the twelve bits of a mode are handed on. -/
def MkdirArgs.perform (args : MkdirArgs) : Operation Unit := do
  let previous ← Operation.ask (.setUmask 0)
  let answer ← Operation.ask (.makeDirectory args.path (args.mode &&& 0o7777))
  let _ ← Operation.ask (.setUmask previous)
  Operation.check (fun errno ↦ .io args.path (.errno errno)) answer

def ChdirArgs.perform (args : ChdirArgs) : Operation Unit := do
  let answer ← Operation.ask (.changeDirectory args.dir)
  Operation.check (fun errno ↦ .io args.dir (.errno errno)) answer

end ContainerConstruction
