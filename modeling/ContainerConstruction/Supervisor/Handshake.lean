import ContainerConstruction.Engine.Basic

/-!
# The handshake after a fork

A contained process waits at its end of a control channel until it is released.  The supervisor writes
the byte that releases it, closes its own end, or dies at any moment.

A fork copies every open descriptor, so the contained process holds a copy of the supervisor's end as
well.  For a reader the channel has come to its end only when nobody holds the other end any more.
-/

namespace ContainerConstruction

/-- A process that holds the supervisor's end of the control channel. -/
inductive ControlHolder where
  | supervisor
  | contained
  deriving DecidableEq, Repr

/-- A control channel and the processes at its ends. -/
structure Handshake where
  /-- The bytes that were written and not yet read. -/
  channel : List UInt8
  /-- The processes that hold the supervisor's end. -/
  holders : List ControlHolder
  isSupervisorAlive : Bool
  /-- What the contained process does, once it knows. -/
  start : Option (Except Failure Start)

/-- A move of the supervisor or of the contained process. -/
inductive HandshakeMove where
  /-- The engine sees the new process. -/
  | afterFork
  /-- The supervisor writes the byte that releases the process. -/
  | release
  /-- The supervisor closes its end. -/
  | close
  | die
  /-- The contained process reads. -/
  | read
  deriving DecidableEq, Repr

namespace Handshake

def afterFork : Handshake := ⟨[], [.supervisor, .contained], true, none⟩

/-- The supervisor lets go of its end. -/
def withoutSupervisor (handshake : Handshake) : Handshake :=
  { handshake with holders := handshake.holders.filter (· ≠ .supervisor) }

def supervisorHolds (handshake : Handshake) : Bool :=
  handshake.isSupervisorAlive && handshake.holders.contains .supervisor

/-- Whether reading from the channel comes to an end, with a byte or with the end of the channel. -/
def canRead (handshake : Handshake) : Bool :=
  !handshake.channel.isEmpty || handshake.holders.isEmpty

/-- Whether the supervisor is gone without having released the process. -/
def isAbandoned (handshake : Handshake) : Bool :=
  handshake.channel.isEmpty && handshake.start.isNone && !handshake.supervisorHolds

/-- Makes one move, if it can be made. -/
def step (engine : Engine) (handshake : Handshake) : HandshakeMove → Option Handshake
  | .afterFork => if handshake.isSupervisorAlive then some handshake else none
  | .release =>
    if handshake.supervisorHolds then
      some { handshake with channel := handshake.channel ++ [Engine.goByte] }
    else none
  | .close => if handshake.supervisorHolds then some handshake.withoutSupervisor else none
  | .die =>
    if handshake.isSupervisorAlive then
      some { handshake.withoutSupervisor with isSupervisorAlive := false }
    else none
  | .read =>
    if handshake.canRead && handshake.start.isNone then
      some { handshake with
        channel := handshake.channel.drop 1
        start := some (engine.start (.ok (handshake.channel.take 1))) }
    else none

/-- Makes moves one after the other, if all of them can be made. -/
def run (engine : Engine) (handshake : Handshake) (moves : List HandshakeMove) : Option Handshake :=
  moves.foldlM (step engine) handshake

end Handshake

end ContainerConstruction
