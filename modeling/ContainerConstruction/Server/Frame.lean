/-!
# Frames

Messages travel in frames: the length of the payload in four bytes, the most significant first, and the
payload.  A frame is bounded in both directions.  `next` takes the first frame off a stream that has
ended.  A stream may end before a payload: a length that nothing follows is passed over.
-/

namespace ContainerConstruction.Frame

/-- The most bytes a payload may have. -/
def maximalLength : Nat := 8388608

/-- Why a stream cannot be read on, or a payload not be sent. -/
inductive Defect where
  | tooBig
  /-- The stream ends within a frame. -/
  | incomplete
  deriving DecidableEq, Repr

namespace Defect

def message : Defect → String
  | .tooBig => "frame size too big"
  | .incomplete => "bytes remaining on stream"

end Defect

/-- The length of a payload in four bytes. -/
def header (length : Nat) : List UInt8 :=
  [UInt8.ofNat (length / 16777216), UInt8.ofNat (length / 65536 % 256),
    UInt8.ofNat (length / 256 % 256), UInt8.ofNat (length % 256)]

def encode (payload : List UInt8) : Except Defect (List UInt8) :=
  if maximalLength < payload.length then .error .tooBig
  else .ok (header payload.length ++ payload)

/-- What a stream begins with. -/
inductive Next where
  | frame (payload rest : List UInt8)
  | finished
  | failed (defect : Defect)
  deriving Repr

def next : List UInt8 → Next
  | [] => .finished
  | a :: b :: c :: d :: rest =>
    let length := ((a.toNat * 256 + b.toNat) * 256 + c.toNat) * 256 + d.toNat
    if maximalLength < length then .failed .tooBig
    else
      let payload := rest.take length
      if payload.length = length then .frame payload (rest.drop length)
      else if payload.isEmpty then .finished
      else .failed .incomplete
  | _ => .failed .incomplete

/-- Taking a frame off leaves less. -/
theorem rest_length_lt {stream payload rest : List UInt8} (h : next stream = .frame payload rest) :
    rest.length < stream.length := by
  match stream with
  | [] => simp [next] at h
  | [_] | [_, _] | [_, _, _] => simp [next] at h
  | a :: b :: c :: d :: tail =>
    simp only [next] at h
    split at h
    · simp at h
    · split at h
      · cases h
        simp only [List.length_cons, List.length_drop]
        omega
      · split at h <;> simp at h

end ContainerConstruction.Frame
