import ContainerConstruction.Kernel.Interface
import ContainerConstruction.Request.Basic

/-!
# Hostname

The name of the host is checked before the kernel is asked: it is not empty and no longer than the
kernel's limit, counted in bytes.
-/

namespace ContainerConstruction

namespace HostnameArgs

def maximalLength : Nat := 64

def defect? (hostname : String) : Option Failure :=
  if hostname.isEmpty then some (.config "hostname must not be empty")
  else if maximalLength < hostname.utf8ByteSize then
    some (.config s!"hostname exceeds {maximalLength} bytes")
  else none

def perform (args : HostnameArgs) : Operation Unit := do
  match defect? args.hostname with
  | some failure => throw failure
  | none =>
    let answer ← Operation.ask (.setHostname args.hostname)
    Operation.check
      (fun errno ↦ .namespaceEntry s!"sethostname {args.hostname} failed: {errno.namedText}") answer

end HostnameArgs

end ContainerConstruction
