import ContainerConstruction.Host.Files
import ContainerConstruction.Process.Status

/-!
# Programs at work

What programs have in common while they run: the host, the streams that they read and write, and the
time that passes while one of them sleeps.

One process is under observation.  Signals are sent to that one, and reach it while time passes.  Its
schedule says which signals reach it in which sleep; when the schedule is used up, time stands still.
-/

namespace ContainerConstruction

/-- Where a descriptor of a program leads. -/
inductive Stream where
  /-- A queue of bytes in memory. -/
  | queue (number : Nat)
  | file (path : TreePath)
  | sink
  deriving DecidableEq, Repr

/-- How much time there is. -/
inductive Clock where
  | endless
  /-- The signals of each sleep that is still to come. -/
  | scheduled (sleeps : List (List Nat))
  deriving DecidableEq, Repr

/-- What all programs share. -/
structure World where
  host : Host
  /-- The bytes in every queue. -/
  queues : List (Nat × List UInt8)
  clock : Clock
  /-- The signals that the observed process reacts to itself. -/
  caught : List Nat
  /-- The signals that the observed process ignores. -/
  ignored : List Nat
  /-- The signals that the observed process has yet to react to. -/
  pending : List Nat
  deriving Repr

/-- A program while it runs. -/
structure Task where
  who : Host.Accessor
  streams : List (Nat × Stream)
  environment : List (String × String)
  pid : Nat
  deriving Repr

/-- How running a program ends. -/
inductive Ending where
  | exited (code : Nat)
  | killed (signal : Nat)
  /-- A signal has ended the observed process. -/
  | struck (signal : Nat)
  /-- Time stands still. -/
  | waiting
  /-- The program does not come to an end. -/
  | endless
  deriving DecidableEq, Repr

namespace World

/-! ## Streams -/

/-- The queues that a program begins with. -/
def inputQueue : Nat := 0
def outputQueue : Nat := 1
def errorQueue : Nat := 2

/-- A host with nothing running, and what the first program can read. -/
def ofHost (host : Host) (input : List UInt8) (clock : Clock) : World :=
  ⟨host, [(inputQueue, input), (outputQueue, []), (errorQueue, [])], clock, [], [], []⟩

def queue (number : Nat) (world : World) : List UInt8 :=
  ((world.queues.find? (·.1 = number)).map (·.2)).getD []

def withQueue (number : Nat) (bytes : List UInt8) (world : World) : World :=
  { world with queues := (number, bytes) :: world.queues.filter (·.1 ≠ number) }

/-- A queue with the given bytes, and its number. -/
def newQueue (bytes : List UInt8) (world : World) : Nat × World :=
  let number := world.queues.foldl (fun highest (number, _) ↦ max highest (number + 1)) 0
  (number, world.withQueue number bytes)

def write (stream : Stream) (bytes : List UInt8) (world : World) : World :=
  match stream with
  | .queue number => world.withQueue number (world.queue number ++ bytes)
  | .file path => { world with host := world.host.appendAt path bytes }
  | .sink => world

/-- Reads a stream to its end. -/
def readAll (stream : Stream) (world : World) : Except Errno (List UInt8) × World :=
  match stream with
  | .queue number => (.ok (world.queue number), world.withQueue number [])
  | .file path => (world.host.contentAt path, world)
  | .sink => (.ok [], world)

/-- Reads a line from a queue, without what ends it.  Gives whether it was ended. -/
def readLine (stream : Stream) (world : World) : (List UInt8 × Bool) × World :=
  match stream with
  | .queue number =>
    let bytes := world.queue number
    let behind := bytes.dropWhile (· ≠ 10)
    ((bytes.takeWhile (· ≠ 10), !behind.isEmpty), world.withQueue number (behind.drop 1))
  | _ => (([], false), world)

/-! ## Time -/

/-- What a sleep comes to. -/
inductive Rest where
  | rested
  | struck (signal : Nat)
  | waiting
  deriving DecidableEq, Repr

/-- Whether a signal has no effect on a process that does nothing about it. -/
def isHarmless (signal : Nat) : Bool := [Signal.child, Signal.resume, 23, 28].contains signal

/-- Lets signals reach the observed process, up to the first that ends it. -/
def deliver (world : World) : List Nat → Rest × World
  | [] => (.rested, world)
  | signal :: rest =>
    if world.caught.contains signal then
      deliver { world with pending := world.pending ++ [signal] } rest
    else if isHarmless signal || (world.ignored.contains signal && signal ≠ Signal.kill) then
      deliver world rest
    else (.struck signal, world)

def sleep (world : World) : Rest × World :=
  match world.clock with
  | .endless => (.rested, world)
  | .scheduled [] => (.waiting, world)
  | .scheduled (signals :: rest) => deliver { world with clock := .scheduled rest } signals

end World

namespace Task

/-! ## Descriptors -/

def stream (descriptor : Nat) (task : Task) : Stream :=
  ((task.streams.find? (·.1 = descriptor)).map (·.2)).getD .sink

/-- Lets a descriptor lead somewhere else. -/
def withStream (descriptor : Nat) (stream : Stream) (task : Task) : Task :=
  { task with streams := (descriptor, stream) :: task.streams.filter (·.1 ≠ descriptor) }

/-- Writes a text to a descriptor. -/
def say (descriptor : Nat) (text : String) (task : Task) (world : World) : World :=
  world.write (task.stream descriptor) (Text.Utf8.ofText text)

/-- The streams of a program that is alone. -/
def usualStreams : List (Nat × Stream) :=
  [(0, .queue World.inputQueue), (1, .queue World.outputQueue), (2, .queue World.errorQueue)]

def binding? (name : String) (task : Task) : Option String :=
  (task.environment.find? (·.1 = name)).map (·.2)

end Task

end ContainerConstruction
