import ContainerConstruction.Text.Utf8

/-!
# The characters of a text are read back from its bytes

The decoder looks at one byte after the other, with the bounds that the first byte sets for the second.
The lemmas follow the four lengths of an encoded character; a text is read character by character.
-/

namespace ContainerConstruction.Text.Utf8

/-! ## Leading bytes -/

theorem lead_ascii {value : Nat} (h : value < 128) :
    lead (UInt8.ofNat value) = .inl (some (Char.ofNat value)) := by
  have hbyte : (UInt8.ofNat value).toNat = value :=
    UInt8.toNat_ofNat_of_lt' (show value < 256 by omega)
  simp [lead, UInt8.lt_iff_toNat_lt, hbyte, h]

theorem lead_two {value : Nat} (hlow : 2 ≤ value) (hhigh : value < 32) :
    lead (UInt8.ofNat (value + 0xC0)) = .inr ⟨value, 0, 0x80, 0xBF⟩ := by
  have hbyte : (UInt8.ofNat (value + 0xC0)).toNat = value + 0xC0 :=
    UInt8.toNat_ofNat_of_lt' (show value + 0xC0 < 256 by omega)
  simp only [lead, UInt8.lt_iff_toNat_lt, hbyte]
  grind

theorem lead_three {value : Nat} (h : value < 16) :
    lead (UInt8.ofNat (value + 0xE0)) =
      .inr ⟨value, 1, if value = 0 then 0xA0 else 0x80, if value = 13 then 0x9F else 0xBF⟩ := by
  have hbyte : (UInt8.ofNat (value + 0xE0)).toNat = value + 0xE0 :=
    UInt8.toNat_ofNat_of_lt' (show value + 0xE0 < 256 by omega)
  simp only [lead, UInt8.lt_iff_toNat_lt, beq_iff_eq, ← UInt8.toNat_inj, hbyte]
  grind

theorem lead_four {value : Nat} (h : value < 5) :
    lead (UInt8.ofNat (value + 0xF0)) =
      .inr ⟨value, 2, if value = 0 then 0x90 else 0x80, if value = 4 then 0x8F else 0xBF⟩ := by
  have hbyte : (UInt8.ofNat (value + 0xF0)).toNat = value + 0xF0 :=
    UInt8.toNat_ofNat_of_lt' (show value + 0xF0 < 256 by omega)
  simp only [lead, UInt8.lt_iff_toNat_lt, beq_iff_eq, ← UInt8.toNat_inj, hbyte]
  grind

theorem decodeFrom_lead {byte : UInt8} {begun : Begun} {rest : List UInt8} (h : lead byte = .inr begun) :
    decodeFrom none (byte :: rest) = decodeFrom (some begun) rest := by
  simp only [decodeFrom, h]

/-! ## Continuing bytes -/

theorem decodeFrom_last {begun : Begun} {value : Nat} {rest : List UInt8}
    (hothers : begun.others = 0) (hvalue : value < 64)
    (hlow : begun.lowest.toNat ≤ value + 0x80) (hhigh : value + 0x80 ≤ begun.highest.toNat) :
    decodeFrom (some begun) (UInt8.ofNat (value + 0x80) :: rest) =
      some (Char.ofNat (begun.bits * 64 + value)) :: decodeFrom none rest := by
  have hbyte : (UInt8.ofNat (value + 0x80)).toNat = value + 0x80 :=
    UInt8.toNat_ofNat_of_lt' (show value + 0x80 < 256 by omega)
  have hbits : (value + 0x80) % 64 = value := by omega
  simp only [decodeFrom, UInt8.le_iff_toNat_le, hbyte, hlow, hhigh, and_self, if_true, hothers, hbits]

theorem decodeFrom_further {begun : Begun} {value others : Nat} {rest : List UInt8}
    (hothers : begun.others = others + 1) (hvalue : value < 64)
    (hlow : begun.lowest.toNat ≤ value + 0x80) (hhigh : value + 0x80 ≤ begun.highest.toNat) :
    decodeFrom (some begun) (UInt8.ofNat (value + 0x80) :: rest) =
      decodeFrom (some ⟨begun.bits * 64 + value, others, 0x80, 0xBF⟩) rest := by
  have hbyte : (UInt8.ofNat (value + 0x80)).toNat = value + 0x80 :=
    UInt8.toNat_ofNat_of_lt' (show value + 0x80 < 256 by omega)
  have hbits : (value + 0x80) % 64 = value := by omega
  simp only [decodeFrom, UInt8.le_iff_toNat_le, hbyte, hlow, hhigh, and_self, if_true, hothers, hbits]

/-! ## Whole characters -/

theorem decodeFrom_one {value : Nat} {rest : List UInt8} (h : value ≤ 0x7F) :
    decodeFrom none (UInt8.ofNat value :: rest) = some (Char.ofNat value) :: decodeFrom none rest := by
  simp only [decodeFrom, lead_ascii (show value < 128 by omega)]

theorem decodeFrom_two {value : Nat} {rest : List UInt8} (hlow : 0x7F < value) (hhigh : value ≤ 0x7FF) :
    decodeFrom none (UInt8.ofNat (value / 64 % 0x20 + 0xC0) ::
        UInt8.ofNat (value % 0x40 + 0x80) :: rest) =
      some (Char.ofNat value) :: decodeFrom none rest := by
  rw [decodeFrom_lead (lead_two (by omega) (by omega)),
    decodeFrom_last rfl (by omega) (by simp) (by simp; omega)]
  congr 3
  simp only
  omega

/-- The bounds of the second byte leave out the overlong forms and the surrogates. -/
theorem decodeFrom_three {value : Nat} {rest : List UInt8} (hlow : 0x7FF < value) (hhigh : value ≤ 0xFFFF)
    (hsurrogate : value < 0xD800 ∨ 0xDFFF < value) :
    decodeFrom none (UInt8.ofNat (value / 4096 % 0x10 + 0xE0) ::
        UInt8.ofNat (value / 64 % 0x40 + 0x80) :: UInt8.ofNat (value % 0x40 + 0x80) :: rest) =
      some (Char.ofNat value) :: decodeFrom none rest := by
  rw [decodeFrom_lead (lead_three (by omega)),
    decodeFrom_further rfl (by omega) (by dsimp only; split <;> simp; omega)
      (by dsimp only; split <;> simp <;> omega),
    decodeFrom_last rfl (by omega) (by simp) (by simp; omega)]
  congr 3
  simp only
  omega

/-- A character beyond the first plane is read from four bytes. -/
theorem decodeFrom_four {value : Nat} {rest : List UInt8} (hlow : 0xFFFF < value)
    (hhigh : value < 0x110000) :
    decodeFrom none (UInt8.ofNat (value / 262144 % 0x08 + 0xF0) ::
        UInt8.ofNat (value / 4096 % 0x40 + 0x80) :: UInt8.ofNat (value / 64 % 0x40 + 0x80) ::
        UInt8.ofNat (value % 0x40 + 0x80) :: rest) =
      some (Char.ofNat value) :: decodeFrom none rest := by
  rw [decodeFrom_lead (lead_four (by omega)),
    decodeFrom_further rfl (by omega) (by dsimp only; split <;> simp; omega)
      (by dsimp only; split <;> simp <;> omega),
    decodeFrom_further rfl (by omega) (by simp) (by simp; omega),
    decodeFrom_last rfl (by omega) (by simp) (by simp; omega)]
  congr 3
  simp only
  omega

/-- A character is read from its own bytes, whatever follows. -/
theorem decodeFrom_encodeChar (c : Char) (rest : List UInt8) :
    decodeFrom none (String.utf8EncodeChar c ++ rest) = some c :: decodeFrom none rest := by
  have hvalid : c.toNat < 0xD800 ∨ 0xDFFF < c.toNat ∧ c.toNat < 0x110000 := c.valid
  have hchar : c.val.toNat = c.toNat := rfl
  rw [show some c = some (Char.ofNat c.toNat) by rw [Char.ofNat_toNat]]
  simp only [String.utf8EncodeChar, hchar]
  split
  · exact decodeFrom_one (by omega)
  · split
    · exact decodeFrom_two (by omega) (by omega)
    · split
      · exact decodeFrom_three (by omega) (by omega) (by omega)
      · exact decodeFrom_four (by omega) (by omega)

/-! ## Texts -/

theorem toList_loop (bytes : ByteArray) (index : Nat) (read : List UInt8) :
    ByteArray.toList.loop bytes index read = read.reverse ++ bytes.data.toList.drop index := by
  fun_induction ByteArray.toList.loop bytes index read with
  | case1 index read h ih =>
    have hindex : index < bytes.data.toList.length := by simpa using h
    rw [ih, List.drop_eq_getElem_cons hindex]
    simp [ByteArray.get!, getElem!_pos, h]
  | case2 index read h =>
    have hlength : bytes.data.toList.length ≤ index := by simpa using h
    simp [List.drop_eq_nil_of_le hlength]

/-- The bytes of a text are those of its characters in order. -/
theorem ofText_eq_flatMap (text : String) : ofText text = text.toList.flatMap String.utf8EncodeChar := by
  have hbytes : text.toByteArray = text.toList.utf8Encode := by
    rw [← String.toByteArray_ofList, String.ofList_toList]
  rw [ofText, String.toUTF8_eq_toByteArray, ByteArray.toList, toList_loop, hbytes, List.utf8Encode]
  simp

/-- The bytes of a text are read as its characters. -/
theorem decode_ofText (text : String) : decode (ofText text) = text.toList.map some := by
  rw [decode, ofText_eq_flatMap]
  induction text.toList with
  | nil => rfl
  | cons c others ih => rw [List.flatMap_cons, decodeFrom_encodeChar, ih, List.map_cons]

end ContainerConstruction.Text.Utf8
