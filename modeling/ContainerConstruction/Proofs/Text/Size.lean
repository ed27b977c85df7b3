import ContainerConstruction.Proofs.Json.Literals
import ContainerConstruction.Proofs.Text.Utf8
import ContainerConstruction.Text.Quoted
import Mathlib.Data.Nat.Digits.Defs
import Mathlib.Data.String.Basic

/-!
# The sizes of texts

A text is longer inside a string literal than it is by itself, and longer again if it was quoted before.  Both are
done character by character, so it is enough to know what becomes of one: escaping gives it at most six times its
bytes, quoting and escaping at most seven times.
-/

namespace ContainerConstruction

/-! ## Texts that are written character by character -/

namespace Text.Utf8

theorem length_ofText (text : String) : (ofText text).length = text.utf8ByteSize := by
  rw [ofText, ByteArray.toList, toList_loop, String.toUTF8_eq_toByteArray]
  simp

/-- Characters of one byte each. -/
theorem utf8Len_eq_length {chars : List Char} (h : ∀ c ∈ chars, c.utf8Size = 1) :
    String.utf8Len chars = chars.length := by
  induction chars with
  | nil => rfl
  | cons c others ih =>
    obtain ⟨hfirst, hothers⟩ := List.forall_mem_cons.mp h
    rw [String.utf8Len_cons, List.length_cons, ih hothers, hfirst]

theorem utf8Len_flatMap_replicate (count : Nat) (c : Char) (write : Char → List Char) :
    String.utf8Len ((List.replicate count c).flatMap write) = count * String.utf8Len (write c) := by
  induction count with
  | zero => rw [Nat.zero_mul]; rfl
  | succ count ih =>
    rw [List.replicate_succ, List.flatMap_cons, String.utf8Len_append, ih, Nat.succ_mul, Nat.add_comm]

/-- The size of a text that is written character by character. -/
theorem utf8Len_flatMap_le {write : Char → List Char} {factor : Nat}
    (hwrite : ∀ c, String.utf8Len (write c) ≤ factor * c.utf8Size) (text : String) :
    String.utf8Len (text.toList.flatMap write) ≤ factor * text.utf8ByteSize := by
  have hsize : text.utf8ByteSize = String.utf8Len text.toList := by
    rw [← String.utf8ByteSize_ofList, String.ofList_toList]
  rw [hsize]
  induction text.toList with
  | nil => exact Nat.zero_le _
  | cons c others ih =>
    rw [List.flatMap_cons, String.utf8Len_append, String.utf8Len_cons, Nat.mul_add, Nat.add_comm]
    exact Nat.add_le_add ih (hwrite c)

end Text.Utf8

/-! ## Texts in documents -/

namespace Json

/-- The bytes of a text inside a string literal. -/
def escapedSize (text : String) : Nat := String.utf8Len (text.toList.flatMap printChar)

theorem escapedSize_append (first second : String) :
    escapedSize (first ++ second) = escapedSize first + escapedSize second := by
  rw [escapedSize, String.toList_append, List.flatMap_append, String.utf8Len_append]
  rfl

theorem utf8Len_printString (text : String) : String.utf8Len (printString text) = escapedSize text + 2 := by
  rw [printString, String.utf8Len_append, String.utf8Len_cons, escapedSize]
  rfl

/-- An escaped unit has six characters of one byte each. -/
theorem utf8Len_unit {value : Nat} (h : value < 32) :
    String.utf8Len ['\\', 'u', '0', '0', hexDigit (value / 16), hexDigit (value % 16)] = 6 := by
  revert value
  decide

/-- A character has at most six times its bytes when it is escaped. -/
theorem utf8Len_printChar_le (c : Char) : String.utf8Len (printChar c) ≤ 6 * c.utf8Size := by
  have hpositive : 0 < c.utf8Size := c.utf8Size_pos
  rcases Document.printChar_cases c with ⟨letter, -, hprint⟩ | ⟨hcontrol, hprint⟩ | ⟨-, -, -, hprint⟩
  · have hletter : letter.utf8Size ≤ 4 := letter.utf8Size_le_four
    have hbackslash : '\\'.utf8Size = 1 := rfl
    rw [hprint, String.utf8Len_cons, String.utf8Len_cons, String.utf8Len_nil]
    omega
  · rw [hprint, utf8Len_unit hcontrol]
    omega
  · rw [hprint, String.utf8Len_cons, String.utf8Len_nil]
    omega

/-- An escape takes six bytes for one at most. -/
theorem escapedSize_le (text : String) : escapedSize text ≤ 6 * text.utf8ByteSize :=
  Text.Utf8.utf8Len_flatMap_le utf8Len_printChar_le text

/-- The marks of an object with one member have five bytes. -/
theorem utf8Len_print_one (name : String) (value : Json) :
    String.utf8Len (print (.object [(name, value)])) = escapedSize name + String.utf8Len value.print + 5 := by
  have hmarks : ':'.utf8Size = 1 ∧ '\x7b'.utf8Size = 1 ∧ '\x7d'.utf8Size = 1 := by decide
  simp only [print, printMembers, utf8Len_printString, String.utf8Len_append, String.utf8Len_cons,
    String.utf8Len_nil]
  omega

/-- The marks of an object with two members have nine bytes. -/
theorem utf8Len_print_two (first second : String) (value other : Json) :
    String.utf8Len (print (.object [(first, value), (second, other)])) =
      escapedSize first + String.utf8Len value.print + escapedSize second + String.utf8Len other.print + 9 := by
  have hmarks : ':'.utf8Size = 1 ∧ ','.utf8Size = 1 ∧ '\x7b'.utf8Size = 1 ∧ '\x7d'.utf8Size = 1 := by decide
  simp only [print, printMembers, utf8Len_printString, String.utf8Len_append, String.utf8Len_cons,
    String.utf8Len_nil]
  omega

theorem utf8Len_printInteger_le {value : Nat} (h : value < 10 ^ 10) :
    String.utf8Len (printInteger value) ≤ 10 := by
  have hdigit (c : Char) (hc : c ∈ Nat.toDigits 10 value) : c.utf8Size = 1 := by
    have hrange := (Document.digits_toDigits value).2 c hc
    simp only [Char.isDigit, Bool.and_eq_true, decide_eq_true_eq] at hrange
    exact Char.utf8Size_eq_one_iff.mpr (UInt32.le_trans hrange.2 (by decide))
  rw [printInteger, if_neg (by omega), Int.natAbs_natCast, Nat.toList_repr, Text.Utf8.utf8Len_eq_length hdigit]
  exact Nat.toDigits_length 10 value 10 (by decide) h

end Json

/-! ## Texts that are quoted before -/

namespace Text

theorem exists_of_mem_toDigits (value : Nat) :
    ∀ c ∈ Nat.toDigits 16 value, ∃ digit < 16, c = Nat.digitChar digit := by
  induction value using Nat.strong_induction_on with
  | _ value ih =>
    by_cases hsmall : value < 16
    · rw [Nat.toDigits_of_lt_base hsmall]
      exact List.forall_mem_singleton.mpr ⟨value, hsmall, rfl⟩
    · rw [Nat.toDigits_of_base_le (by decide) (Nat.le_of_not_lt hsmall)]
      refine List.forall_mem_append.mpr ⟨ih _ (by omega), List.forall_mem_singleton.mpr ?_⟩
      exact ⟨value % 16, Nat.mod_lt _ (by decide), rfl⟩

/-- Hexadecimal digits are not escaped. -/
theorem utf8Len_printed_toDigits (value : Nat) :
    String.utf8Len ((Nat.toDigits 16 value).flatMap Json.printChar) = (Nat.toDigits 16 value).length := by
  have hplain : ∀ digit < 16, Json.printChar (Nat.digitChar digit) = [Nat.digitChar digit] ∧
      (Nat.digitChar digit).utf8Size = 1 := by decide
  have hdigits := exists_of_mem_toDigits value
  generalize Nat.toDigits 16 value = digits at hdigits ⊢
  induction digits with
  | nil => rfl
  | cons c others ih =>
    obtain ⟨⟨digit, hdigit, rfl⟩, hothers⟩ := List.forall_mem_cons.mp hdigits
    obtain ⟨hprint, hsize⟩ := hplain digit hdigit
    rw [List.flatMap_cons, hprint, List.singleton_append, String.utf8Len_cons, ih hothers, hsize,
      List.length_cons]

/-- A code point has no more than two hexadecimal digits for each of its bytes. -/
theorem length_toDigits_le (c : Char) : (Nat.toDigits 16 c.toNat).length ≤ 2 * c.utf8Size := by
  have hvalid : c.toNat < 0xD800 ∨ 0xDFFF < c.toNat ∧ c.toNat < 0x110000 := c.valid
  have hval : c.val.toNat = c.toNat := rfl
  simp only [Char.utf8Size, UInt32.le_iff_toNat_le, hval]
  split_ifs with hone htwo hthree
  · exact Nat.toDigits_length 16 _ 2 (by decide) (Nat.lt_of_le_of_lt hone (by decide))
  · have hlength := Nat.toDigits_length 16 c.toNat 3 (by decide) (Nat.lt_of_le_of_lt htwo (by decide))
    omega
  · have hlength := Nat.toDigits_length 16 c.toNat 4 (by decide) (Nat.lt_of_le_of_lt hthree (by decide))
    omega
  · have hlength := Nat.toDigits_length 16 c.toNat 6 (by decide) (by omega)
    omega

/-- Quoted and escaped, a character has at most seven times its bytes. -/
theorem utf8Len_quoteChar_le (c : Char) :
    String.utf8Len ((quoteChar c).flatMap Json.printChar) ≤ 7 * c.utf8Size := by
  have hpositive : 0 < c.utf8Size := c.utf8Size_pos
  have hdigits := length_toDigits_le c
  have hescape (letter : Char) (hletter : String.utf8Len (Json.printChar letter) ≤ 2) :
      String.utf8Len (['\\', letter].flatMap Json.printChar) ≤ 4 := by
    have hbackslash : String.utf8Len (Json.printChar '\\') = 2 := by decide
    rw [List.flatMap_cons, List.flatMap_singleton, String.utf8Len_append, hbackslash]
    omega
  unfold quoteChar
  split_ifs
  · exact Nat.le_trans (hescape '"' (by decide)) (by omega)
  · exact Nat.le_trans (hescape '\\' (by decide)) (by omega)
  · exact Nat.le_trans (hescape 'n' (by decide)) (by omega)
  · exact Nat.le_trans (hescape 'r' (by decide)) (by omega)
  · exact Nat.le_trans (hescape 't' (by decide)) (by omega)
  · exact Nat.le_trans (hescape '0' (by decide)) (by omega)
  · have hbefore : String.utf8Len (['\\', 'u', '\x7b'].flatMap Json.printChar) = 4 := by decide
    have hafter : String.utf8Len (['\x7d'].flatMap Json.printChar) = 1 := by decide
    rw [List.flatMap_append, List.flatMap_append, String.utf8Len_append, String.utf8Len_append, hbefore, hafter,
      hexadecimal, String.toList_ofList, utf8Len_printed_toDigits]
    omega
  · rw [List.flatMap_singleton]
    exact Nat.le_trans (Json.utf8Len_printChar_le c) (by omega)

/-- A text that is quoted before it is escaped takes seven bytes for one at most. -/
theorem escapedSize_quoted_le (text : String) : Json.escapedSize (quoted text) ≤ 7 * text.utf8ByteSize + 4 := by
  have hmark : String.utf8Len (Json.printChar '"') = 2 := by decide +kernel
  have htext := Utf8.utf8Len_flatMap_le utf8Len_quoteChar_le text
  rw [Json.escapedSize, quoted, String.toList_ofList]
  simp only [List.cons_append, List.flatMap_cons, List.flatMap_append, List.flatMap_nil, List.flatMap_assoc,
    String.utf8Len_append, String.utf8Len_nil, hmark]
  omega

end Text

end ContainerConstruction
