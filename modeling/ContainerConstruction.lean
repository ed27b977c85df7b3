import ContainerConstruction.Main
import ContainerConstruction.Server.Concurrent
import ContainerConstruction.Server.HostTraffic
import ContainerConstruction.Supervisor.Handshake
import ContainerConstruction.Proofs.Server.Identity
import ContainerConstruction.Proofs.Server.Poisoning
import ContainerConstruction.Proofs.Server.ServeLoop
import ContainerConstruction.Proofs.Server.Transparency
import ContainerConstruction.Proofs.Engine.Init
import ContainerConstruction.Proofs.Operation.Bracket
import ContainerConstruction.Proofs.Supervisor.Phases
import ContainerConstruction.Proofs.Request.Wire
import ContainerConstruction.Proofs.CommandLine.Serve
import ContainerConstruction.Proofs.Executor.Queue
import ContainerConstruction.Proofs.Operation.Membership
import ContainerConstruction.Proofs.Supervisor.Cleanup
import ContainerConstruction.Proofs.Server.Exemption
import ContainerConstruction.Proofs.Server.Silence
import ContainerConstruction.Proofs.Server.Escalation
import ContainerConstruction.Proofs.Supervisor.Preparation
import ContainerConstruction.Proofs.Supervisor.Abandonment
import ContainerConstruction.Proofs.Engine.Registry
import ContainerConstruction.Proofs.Process.Monitor
import ContainerConstruction.Proofs.Config.RoundTrip
import ContainerConstruction.Proofs.Server.Pairing
import ContainerConstruction.Proofs.Operation.LoopSearch
import ContainerConstruction.Proofs.Engine.Payloads
import ContainerConstruction.Proofs.Process.RequestedIdentity
import ContainerConstruction.Proofs.Operation.RootSwitch
import ContainerConstruction.Proofs.Operation.ImageReference
import ContainerConstruction.Proofs.Engine.BuildEnvironment
import ContainerConstruction.Proofs.Engine.BuildOutcome
import ContainerConstruction.Proofs.Operation.Directory
import ContainerConstruction.Proofs.Server.Relay
import ContainerConstruction.Proofs.Executor.Nesting
import ContainerConstruction.Proofs.Supervisor.LoopBounds
import ContainerConstruction.Proofs.Operation.MountOptions
import ContainerConstruction.Proofs.Operation.KeySecrecy
