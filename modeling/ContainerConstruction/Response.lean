import ContainerConstruction.Request.Document

/-!
# Responses

Every request is answered by a `Response`: the reply of the operation, or the class and the text of its
failure.  On the caller's side the failure becomes a remote one; its class stays what it was.
-/

namespace ContainerConstruction

open Json (Reader)
open Json.Reader (string record)
open Json.Reader.Fields (required)

/-- A failure as it is reported to the caller. -/
structure RemoteError where
  kind : ErrorKind
  message : String
  deriving DecidableEq, Repr

namespace RemoteError

def ofFailure (failure : Failure) : RemoteError := ⟨failure.kind, failure.message⟩

def toFailure (error : RemoteError) : Failure := .remote error.kind error.message

def toJson (error : RemoteError) : Json :=
  .object [("kind", error.kind.toJson), ("message", .string error.message)]

def reader : Reader RemoteError :=
  record <| required "kind" ErrorKind.reader <| required "message" string <|
    .done fun message kind ↦ ⟨kind, message⟩

end RemoteError

/-- The outcome of a request. -/
inductive Response where
  | ok (reply : Reply)
  | error (error : RemoteError)
  deriving DecidableEq, Repr

namespace Response

def ofFailure (failure : Failure) : Response := .error (.ofFailure failure)

def ofResult : Except Failure Reply → Response
  | .ok reply => .ok reply
  | .error failure => .ofFailure failure

/-- What the caller makes of a response. -/
def result : Response → Except Failure Reply
  | .ok reply => .ok reply
  | .error remote => .error remote.toFailure

def toJson : Response → Json
  | .ok reply => .object [("status", .string "ok"), ("payload", reply.toJson)]
  | .error remote => .object [("status", .string "error"), ("payload", remote.toJson)]

def reader : Reader Response :=
  Json.Reader.tagged "status" "payload"
    [("ok", fun position document ↦ (Reply.reader position document).map .ok),
      ("error", fun position document ↦ (RemoteError.reader position document).map .error)]

end Response

end ContainerConstruction
