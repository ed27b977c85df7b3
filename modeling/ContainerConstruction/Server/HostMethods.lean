import ContainerConstruction.Executor
import ContainerConstruction.Operation.CryptDevice
import ContainerConstruction.Operation.Directory
import ContainerConstruction.Operation.Hostname
import ContainerConstruction.Operation.LoopDevice
import ContainerConstruction.Operation.RootSwitch
import ContainerConstruction.Server.Methods

/-!
# Methods on the host

Every operation is carried out on the kernel, by the affinity worker.  Only an encrypted device is opened
by the thread that serves the request.
-/

namespace ContainerConstruction

/-- Takes on the identity of a request for good. -/
def SetFsIdArgs.perform (args : SetFsIdArgs) : Operation Unit :=
  FsIdentity.apply ⟨args.uid, args.gid⟩

namespace HostMethods

variable {σ α : Type}

/-- An operation as a method, done by the worker. -/
def onWorker {ι : Type} (worker : Machine Kernel σ) (operation : ι → Operation α) : Method σ ι α :=
  fun args state ↦
    let (outcome, state) := Program.run worker (operation args).run state
    (.returned (Executor.settle outcome), state)

/-- An operation as a method, done by the thread that serves the request. -/
def onCaller {ι : Type} (caller : Machine Kernel σ) (operation : ι → Operation α) : Method σ ι α :=
  fun args state ↦ Program.run caller (operation args).run state

/-- The operations on a machine, seen from the worker and from the threads that serve requests. -/
def ofMachine (worker caller : Machine Kernel σ) : Methods σ where
  mount := onWorker worker MountArgs.perform
  decrypt := onCaller caller CryptArgs.perform
  mkdir := onWorker worker MkdirArgs.perform
  chroot := onWorker worker ChrootArgs.perform
  loopDevice := onWorker worker LoopArgs.perform
  setHostname := onWorker worker HostnameArgs.perform
  setFsId := onWorker worker SetFsIdArgs.perform
  chdir := onWorker worker ChdirArgs.perform

end HostMethods

end ContainerConstruction
