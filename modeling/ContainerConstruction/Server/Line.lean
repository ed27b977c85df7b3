import ContainerConstruction.Program
import ContainerConstruction.Server.Client

/-!
# Streams as peers

Of the other end of its connection a client sees two streams: the one that it writes to, and the one that it
reads from.  A `Line` consists of these, and it is a peer of its own: it does not look at what is written, and
what is read from it may be anything.

The calls of a client that check the form of their replies make up an interface, so that any number of them can
be made one after the other.
-/

namespace ContainerConstruction

/-! ## Streams -/

/-- The streams of a connection: all that has been written, and what there is still to read. -/
structure Line where
  written : List UInt8
  unread : List UInt8

namespace Line

/-- A frame is written, and the next one is read. -/
def react (payload : List UInt8) (line : Line) : Reaction Line :=
  let written := line.written ++ (Frame.header payload.length ++ payload)
  match Frame.next line.unread with
  | .frame response rest => .answer response ⟨written, rest⟩
  | _ => .close line.unread ⟨written, []⟩

def peer : Peer Line := ⟨react⟩

end Line

/-! ## Typed calls -/

namespace Client

variable {σ : Type}

/-- What the typed call of a request gives. -/
abbrev Value : Request → Type
  | .decrypt _ => String
  | .loopDevice _ => UInt32
  | .mount _ | .mkdir _ | .chroot _ | .setHostname _ | .setFsId _ | .chdir _ => Unit

def callTyped (peer : Peer σ) : (request : Request) → Exchange σ (Value request)
  | .mount args => mount peer args
  | .decrypt args => decrypt peer args
  | .mkdir args => mkdir peer args
  | .chroot args => chroot peer args
  | .loopDevice args => loopDevice peer args
  | .setHostname args => setHostname peer args
  | .setFsId args => setFsId peer args
  | .chdir args => chdir peer args

abbrev Calls : Interface := ⟨Request, fun request ↦ Except Failure (Value request)⟩

/-- A client that makes its calls to a peer. -/
def machine (peer : Peer σ) : Machine Calls (Connection σ) where
  answer request connection := (callTyped peer request).run connection

end Client

end ContainerConstruction
