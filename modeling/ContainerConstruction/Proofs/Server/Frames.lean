import ContainerConstruction.Server.Frame

/-!
# The frames of a stream

A stream is cut into the payloads of its complete frames and what is left behind them.  The remainder
begins with no complete frame; it is empty, a part of a frame, or a frame that is too long.
-/

namespace ContainerConstruction.Frame

def framed (payload : List UInt8) : List UInt8 := header payload.length ++ payload

/-! ## One frame -/

def headerValue (a b c d : UInt8) : Nat := ((a.toNat * 256 + b.toNat) * 256 + c.toNat) * 256 + d.toNat

theorem headerValue_header {length : Nat} (h : length ≤ maximalLength) :
    headerValue (UInt8.ofNat (length / 16777216)) (UInt8.ofNat (length / 65536 % 256))
      (UInt8.ofNat (length / 256 % 256)) (UInt8.ofNat (length % 256)) = length := by
  unfold maximalLength at h
  simp only [headerValue, UInt8.toNat_ofNat']
  omega

/-- Four bytes are the header of the number that they stand for. -/
theorem header_headerValue (a b c d : UInt8) : header (headerValue a b c d) = [a, b, c, d] := by
  have ha := a.toNat_lt
  have hb := b.toNat_lt
  have hc := c.toNat_lt
  have hd := d.toNat_lt
  have hfirst : headerValue a b c d / 16777216 = a.toNat := by
    unfold headerValue
    omega
  have hsecond : headerValue a b c d / 65536 % 256 = b.toNat := by
    unfold headerValue
    omega
  have hthird : headerValue a b c d / 256 % 256 = c.toNat := by
    unfold headerValue
    omega
  have hfourth : headerValue a b c d % 256 = d.toNat := by
    unfold headerValue
    omega
  simp only [header, hfirst, hsecond, hthird, hfourth, UInt8.ofNat_toNat]

/-- A payload that fits is the first frame of every stream that begins with it. -/
theorem next_framed {payload : List UInt8} (h : payload.length ≤ maximalLength) (rest : List UInt8) :
    next (framed payload ++ rest) = .frame payload rest := by
  have hvalue := headerValue_header h
  unfold headerValue at hvalue
  simp only [framed, header, List.cons_append, List.nil_append, next, hvalue, Nat.not_lt.mpr h, if_false,
    List.take_left, List.drop_left, if_true]

/-- What is taken off a stream is what it begins with. -/
theorem eq_of_next {stream payload rest : List UInt8} (h : next stream = .frame payload rest) :
    stream = framed payload ++ rest ∧ payload.length ≤ maximalLength := by
  match stream with
  | [] | [_] | [_, _] | [_, _, _] => simp [next] at h
  | a :: b :: c :: d :: tail =>
    simp only [next] at h
    split at h
    · simp at h
    · rename_i hfits
      split at h
      · rename_i hlength
        cases h
        refine ⟨?_, by omega⟩
        rw [framed, hlength, ← headerValue, header_headerValue, List.append_assoc, List.take_append_drop]
        rfl
      · split at h <;> simp at h

/-! ## All frames -/

/-- The payloads of the complete frames, in order. -/
def payloads (stream : List UInt8) : List (List UInt8) :=
  match _h : next stream with
  | .frame payload rest => payload :: payloads rest
  | _ => []
termination_by stream.length
decreasing_by exact rest_length_lt _h

/-- What is left behind the last complete frame. -/
def remainder (stream : List UInt8) : List UInt8 :=
  match _h : next stream with
  | .frame _ rest => remainder rest
  | _ => stream
termination_by stream.length
decreasing_by exact rest_length_lt _h

theorem payloads_of_frame {stream payload rest : List UInt8} (h : next stream = .frame payload rest) :
    payloads stream = payload :: payloads rest := by
  rw [payloads]
  split
  · rename_i heq
    rw [h] at heq
    cases heq
    rfl
  · rename_i hother
    exact absurd h (hother payload rest)

theorem remainder_of_frame {stream payload rest : List UInt8} (h : next stream = .frame payload rest) :
    remainder stream = remainder rest := by
  rw [remainder]
  split
  · rename_i heq
    rw [h] at heq
    cases heq
    rfl
  · rename_i hother
    exact absurd h (hother payload rest)

theorem payloads_of_not_frame {stream : List UInt8}
    (h : ∀ payload rest, next stream ≠ .frame payload rest) :
    payloads stream = [] := by
  rw [payloads]
  split
  · rename_i heq
    exact absurd heq (h _ _)
  · rfl

theorem remainder_of_not_frame {stream : List UInt8}
    (h : ∀ payload rest, next stream ≠ .frame payload rest) :
    remainder stream = stream := by
  rw [remainder]
  split
  · rename_i heq
    exact absurd heq (h _ _)
  · rfl

/-- A stream is its complete frames with the remainder behind them. -/
theorem stream_eq (stream : List UInt8) :
    stream = (payloads stream).flatMap framed ++ remainder stream := by
  fun_induction payloads stream with
  | case1 stream payload rest h ih =>
    rw [remainder_of_frame h, List.flatMap_cons, List.append_assoc, ← ih]
    exact (eq_of_next h).1
  | case2 stream h =>
    rw [remainder_of_not_frame h]
    rfl

/-- The remainder begins with no complete frame. -/
theorem next_remainder (stream payload rest : List UInt8) :
    next (remainder stream) ≠ .frame payload rest := by
  fun_induction remainder stream with
  | case1 stream first behind hnext ih => exact ih
  | case2 stream h => exact h payload rest

/-- Whatever is cut this way is cut by `payloads` and `remainder`. -/
theorem payloads_flatMap {frames : List (List UInt8)}
    (hframes : ∀ payload ∈ frames, payload.length ≤ maximalLength) {left : List UInt8}
    (hleft : ∀ payload rest, next left ≠ .frame payload rest) :
    payloads (frames.flatMap framed ++ left) = frames ∧
      remainder (frames.flatMap framed ++ left) = left := by
  induction frames with
  | nil => exact ⟨payloads_of_not_frame hleft, remainder_of_not_frame hleft⟩
  | cons payload others ih =>
    have hnext := next_framed (hframes payload (List.mem_cons_self ..)) (others.flatMap framed ++ left)
    have hothers := ih fun other hother ↦ hframes other (List.mem_cons_of_mem _ hother)
    rw [List.flatMap_cons, List.append_assoc, payloads_of_frame hnext, remainder_of_frame hnext, hothers.1,
      hothers.2]
    exact ⟨rfl, rfl⟩

end ContainerConstruction.Frame
