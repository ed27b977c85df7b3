import ContainerConstruction.Json.Document
import Mathlib.Data.List.TakeDrop
import Mathlib.Tactic.SplitIfs

/-!
# Strings and numbers as they are written

`Spelled` and `WrittenNumber` say which texts stand for a string and for a number.  The scanner reads each of
these texts completely; whatever follows a number must not look like more of it.  What is printed is one of
them.
-/

namespace ContainerConstruction.Json.Document

/-! ## Strings -/

/-- A character is printed as an escape of one letter, as an escaped unit, or as it stands. -/
theorem printChar_cases (c : Char) :
    (∃ letter, escaped? letter = some c ∧ printChar c = ['\\', letter]) ∨
    (c.toNat < 32 ∧
      printChar c = ['\\', 'u', '0', '0', hexDigit (c.toNat / 16), hexDigit (c.toNat % 16)]) ∨
    (c ≠ '"' ∧ c ≠ '\\' ∧ ¬c.toNat < 32 ∧ printChar c = [c]) := by
  unfold printChar
  split_ifs with hquote hbackslash hline hreturn htab hbell hfeed hcontrol
  · exact .inl ⟨'"', by rw [hquote]; decide, rfl⟩
  · exact .inl ⟨'\\', by rw [hbackslash]; decide, rfl⟩
  · exact .inl ⟨'n', by rw [hline]; decide, rfl⟩
  · exact .inl ⟨'r', by rw [hreturn]; decide, rfl⟩
  · exact .inl ⟨'t', by rw [htab]; decide, rfl⟩
  · exact .inl ⟨'b', by rw [hbell]; decide, rfl⟩
  · exact .inl ⟨'f', by rw [hfeed]; decide, rfl⟩
  · exact .inr (.inl ⟨hcontrol, rfl⟩)
  · exact .inr (.inr ⟨hquote, hbackslash, hcontrol, rfl⟩)

theorem hexValue_hexDigit {value : Nat} (h : value < 16) :
    hexValue? (some (hexDigit value)) = some value := by
  revert value
  decide

theorem scanString_escape {letter c : Char} (hletter : letter ≠ 'u') (h : escaped? letter = some c)
    (rest : Input) :
    scanString (some '\\' :: some letter :: rest) =
      (scanString rest).map fun (pieces, after) ↦ (.char c :: pieces, after) := by
  rw [scanString.eq_def]
  simp [hletter, h]

theorem scanString_unit {first second third fourth : Option Char} {a b d e : Nat}
    (hfirst : hexValue? first = some a) (hsecond : hexValue? second = some b)
    (hthird : hexValue? third = some d) (hfourth : hexValue? fourth = some e) (rest : Input) :
    scanString (some '\\' :: some 'u' :: first :: second :: third :: fourth :: rest) =
      (scanString rest).map fun (pieces, after) ↦
        (.unit (((a * 16 + b) * 16 + d) * 16 + e) :: pieces, after) := by
  rw [scanString.eq_def]
  simp [hfirst, hsecond, hthird, hfourth]

theorem scanString_plain {c : Char} (hquote : c ≠ '"') (hbackslash : c ≠ '\\') (hcontrol : ¬c.toNat < 32)
    (rest : Input) :
    scanString (some c :: rest) =
      (scanString rest).map fun (pieces, after) ↦ (.char c :: pieces, after) := by
  rw [scanString.eq_def]
  simp only [hquote, hbackslash, hcontrol, if_false]

/-- A unit below the surrogates is a character of its own. -/
theorem assemble_unit {code : Nat} (h : code < 0xD800) (others : List Piece) :
    assemble (.unit code :: others) = (assemble others).map (Char.ofNat code :: ·) := by
  have hleading : isLeading code = false := by simp [isLeading]; omega
  have htrailing : isTrailing code = false := by simp [isTrailing]; omega
  rw [assemble.eq_def]
  simp [hleading, htrailing]

/-- The ways to spell the pieces of a string between its quotes. -/
inductive Spelled : List Piece → List Char → Prop where
  | nil : Spelled [] []
  | plain {c : Char} {pieces : List Piece} {text : List Char} (hquote : c ≠ '"') (hbackslash : c ≠ '\\')
      (hcontrol : ¬c.toNat < 32) (hrest : Spelled pieces text) : Spelled (.char c :: pieces) (c :: text)
  | escape {letter c : Char} {pieces : List Piece} {text : List Char} (hescaped : escaped? letter = some c)
      (hrest : Spelled pieces text) : Spelled (.char c :: pieces) ('\\' :: letter :: text)
  | unit {first second third fourth : Char} {a b d e : Nat} {pieces : List Piece} {text : List Char}
      (hfirst : hexValue? (some first) = some a) (hsecond : hexValue? (some second) = some b)
      (hthird : hexValue? (some third) = some d) (hfourth : hexValue? (some fourth) = some e)
      (hrest : Spelled pieces text) :
      Spelled (.unit (((a * 16 + b) * 16 + d) * 16 + e) :: pieces)
        ('\\' :: 'u' :: first :: second :: third :: fourth :: text)

/-- A spelled string is read up to its closing quote. -/
theorem scanString_of_spelled {pieces : List Piece} {text : List Char} (h : Spelled pieces text)
    (rest : Input) : scanString (text.map some ++ some '"' :: rest) = some (pieces, rest) := by
  induction h with
  | nil => rw [scanString.eq_def]; rfl
  | plain hquote hbackslash hcontrol _ ih =>
    rw [List.map_cons, List.cons_append, scanString_plain hquote hbackslash hcontrol, ih]
    rfl
  | @escape letter c _ _ hescaped _ ih =>
    have hletter : letter ≠ 'u' := by
      rintro rfl
      cases hescaped
    rw [List.map_cons, List.map_cons, List.cons_append, List.cons_append,
      scanString_escape hletter hescaped, ih]
    rfl
  | unit hfirst hsecond hthird hfourth _ ih =>
    simp only [List.map_cons, List.cons_append]
    rw [scanString_unit hfirst hsecond hthird hfourth, ih]
    rfl

theorem Spelled.append {first second : List Piece} {text rest : List Char} (h : Spelled first text)
    (hrest : Spelled second rest) : Spelled (first ++ second) (text ++ rest) := by
  induction h with
  | nil => exact hrest
  | plain hquote hbackslash hcontrol _ ih => exact .plain hquote hbackslash hcontrol ih
  | escape hescaped _ ih => exact .escape hescaped ih
  | unit hfirst hsecond hthird hfourth _ ih => exact .unit hfirst hsecond hthird hfourth ih

/-- A printed character is spelled as one piece, which stands for it. -/
theorem spelled_printChar (c : Char) :
    ∃ piece, (∀ others, assemble (piece :: others) = (assemble others).map (c :: ·)) ∧
      Spelled [piece] (printChar c) := by
  obtain ⟨letter, hescaped, hprint⟩ | ⟨hcontrol, hprint⟩ | ⟨hquote, hbackslash, hcontrol, hprint⟩ :=
    printChar_cases c <;> rw [hprint]
  · exact ⟨.char c, fun _ ↦ rfl, .escape hescaped .nil⟩
  · have hhigh : hexValue? (some (hexDigit (c.toNat / 16))) = some (c.toNat / 16) :=
      hexValue_hexDigit (by omega)
    have hlow : hexValue? (some (hexDigit (c.toNat % 16))) = some (c.toNat % 16) :=
      hexValue_hexDigit (by omega)
    have hzero : hexValue? (some '0') = some 0 := by decide
    have hcode : ((0 * 16 + 0) * 16 + c.toNat / 16) * 16 + c.toNat % 16 = c.toNat := by omega
    have hspelled := Spelled.unit hzero hzero hhigh hlow .nil
    rw [hcode] at hspelled
    refine ⟨.unit c.toNat, fun others ↦ ?_, hspelled⟩
    rw [assemble_unit (by omega), Char.ofNat_toNat]
  · exact ⟨.char c, fun _ ↦ rfl, .plain hquote hbackslash hcontrol .nil⟩

/-- Printed characters are spelled as pieces that are assembled to them. -/
theorem spelled_flatMap (characters : List Char) :
    ∃ pieces, assemble pieces = some characters ∧ Spelled pieces (characters.flatMap printChar) := by
  induction characters with
  | nil => exact ⟨[], rfl, .nil⟩
  | cons c others ih =>
    obtain ⟨pieces, hassemble, hspelled⟩ := ih
    obtain ⟨piece, hpiece, hfirst⟩ := spelled_printChar c
    exact ⟨piece :: pieces, by rw [hpiece, hassemble]; rfl, hfirst.append hspelled⟩

/-- The ways to write a text in quotes. -/
inductive Quoted (text : String) : List Char → Prop where
  | quoted {pieces : List Piece} {spelling : List Char} (htext : textOf pieces = some text)
      (hspelled : Spelled pieces spelling) : Quoted text ('"' :: (spelling ++ ['"']))

/-- A string literal is one of the ways to write its text. -/
theorem quoted_printString (text : String) : Quoted text (printString text) := by
  obtain ⟨pieces, hassemble, hspelled⟩ := spelled_flatMap text.toList
  exact .quoted (by rw [textOf, hassemble, Option.map_some, String.ofList_toList]) hspelled

/-! ## Numbers -/

theorem isDigit_some (c : Char) : isDigit (some c) = c.isDigit := by
  simp [isDigit, Char.isDigit, Char.le_def, UInt32.le_iff_toNat_le]

theorem digitsValue_map {digits : List Char} (h : ∀ c ∈ digits, c.isDigit) :
    digitsValue (digits.map some) = Nat.ofDigitChars 10 digits 0 := by
  have hfold (start : Nat) :
      (digits.map some).foldl (fun value digit ↦ value * 10 + (digit.getD '0').toNat - 48) start =
        Nat.ofDigitChars 10 digits start := by
    induction digits generalizing start with
    | nil => rfl
    | cons c others ih =>
      have hc : 48 ≤ c.toNat := by
        have hdigit := h c (List.mem_cons_self ..)
        simp only [Char.isDigit, Bool.and_eq_true, decide_eq_true_eq, ge_iff_le,
          UInt32.le_iff_toNat_le] at hdigit
        exact hdigit.1
      have hstep : start * 10 + c.toNat - 48 = 10 * start + (c.toNat - '0'.toNat) := by
        change _ = 10 * start + (c.toNat - 48)
        omega
      rw [Nat.ofDigitChars_cons, ← hstep, ← ih (fun d hd ↦ h d (List.mem_cons_of_mem c hd))]
      rfl
  exact hfold 0

/-- A number is read from its decimal digits. -/
theorem digitsValue_toDigits (value : Nat) : digitsValue ((Nat.toDigits 10 value).map some) = value := by
  rw [digitsValue_map fun c hc ↦ Nat.isDigit_of_mem_toDigits (by decide) (by decide) hc]
  exact Nat.ofDigitChars_ten_toDigits

/-- Only zero is written with a zero in front. -/
theorem toDigits_head (value : Nat) (h : (Nat.toDigits 10 value).head? = some '0') : value = 0 := by
  induction value using Nat.strongRecOn with
  | ind value ih =>
    rw [Nat.toDigits_eq_if (by decide)] at h
    split at h
    · simpa using h
    · have hne : Nat.toDigits 10 (value / 10) ≠ [] := Nat.toDigits_ne_nil
      rw [List.head?_append, List.head?_eq_some_head hne, Option.some_or, ← List.head?_eq_some_head hne] at h
      have hzero := ih (value / 10) (by omega) h
      omega

/-- What may follow a number without being taken for a part of it. -/
def EndsNumber : Input → Prop
  | [] => True
  | next :: _ => isDigit next = false ∧ next ≠ some '.' ∧ next ≠ some 'e' ∧ next ≠ some 'E'

theorem isDigit_of_ends {rest : Input} (h : EndsNumber rest) {next : Option Char}
    (hnext : rest.head? = some next) : isDigit next = false := by
  cases rest with
  | nil => cases hnext
  | cons first others =>
    cases hnext
    exact h.1

/-- Digits, at least one. -/
def Digits (digits : List Char) : Prop := digits ≠ [] ∧ ∀ c ∈ digits, c.isDigit

/-- The ways to write a fraction, if there is one. -/
inductive WrittenFraction : Option Input → List Char → Prop where
  | none : WrittenFraction none []
  | some {digits : List Char} (hdigits : Digits digits) :
      WrittenFraction (some (digits.map some)) ('.' :: digits)

/-- The ways to write an exponent, if there is one. -/
inductive WrittenExponent : Option (Bool × Input) → List Char → Prop where
  | none : WrittenExponent none []
  | plain {mark : Char} {digits : List Char} (hmark : mark = 'e' ∨ mark = 'E') (hdigits : Digits digits) :
      WrittenExponent (some (false, digits.map some)) (mark :: digits)
  | positive {mark : Char} {digits : List Char} (hmark : mark = 'e' ∨ mark = 'E') (hdigits : Digits digits) :
      WrittenExponent (some (false, digits.map some)) (mark :: '+' :: digits)
  | negative {mark : Char} {digits : List Char} (hmark : mark = 'e' ∨ mark = 'E') (hdigits : Digits digits) :
      WrittenExponent (some (true, digits.map some)) (mark :: '-' :: digits)

/-- The ways to write a number: only zero has a zero in front. -/
inductive WrittenNumber : Literal → List Char → Prop where
  | number (negative : Bool) {whole : List Char} {fraction : Option Input} {exponent : Option (Bool × Input)}
      {fractionText exponentText : List Char} (hwhole : Digits whole)
      (hzero : whole.head? = some '0' → whole.length = 1) (hfraction : WrittenFraction fraction fractionText)
      (hexponent : WrittenExponent exponent exponentText) :
      WrittenNumber ⟨negative, whole.map some, fraction, exponent⟩
        ((if negative then ['-'] else []) ++ (whole ++ (fractionText ++ exponentText)))

/-- A run of digits ends where no digit follows. -/
theorem scanDigits_append {digits : List Char} (h : Digits digits) {rest : Input}
    (hrest : ∀ next, rest.head? = some next → isDigit next = false) :
    scanDigits (digits.map some ++ rest) = some (digits.map some, rest) := by
  have hall : ∀ digit ∈ digits.map some, isDigit digit = true := by
    intro digit hdigit
    obtain ⟨c, hc, rfl⟩ := List.mem_map.mp hdigit
    rw [isDigit_some]
    exact h.2 c hc
  have hstop : rest.takeWhile isDigit = [] ∧ rest.dropWhile isDigit = rest := by
    cases rest with
    | nil => exact ⟨rfl, rfl⟩
    | cons next others => simp [hrest next rfl]
  have hspan : (digits.map some ++ rest).span isDigit = (digits.map some, rest) := by
    rw [List.span_eq_takeWhile_dropWhile, List.takeWhile_append_of_pos hall,
      List.dropWhile_append_of_pos hall, hstop.1, hstop.2, List.append_nil]
  obtain ⟨c, others, rfl⟩ := List.exists_cons_of_ne_nil h.1
  rw [scanDigits, hspan]
  rfl

/-- What an exponent or the end of a number begins with is neither a digit nor a point. -/
theorem WrittenExponent.head_append {exponent : Option (Bool × Input)} {text : List Char}
    (h : WrittenExponent exponent text) {rest : Input} (hrest : EndsNumber rest) {next : Option Char}
    (hnext : (text.map some ++ rest).head? = some next) : isDigit next = false ∧ next ≠ some '.' := by
  have hmark {mark : Char} (hmark : mark = 'e' ∨ mark = 'E') :
      isDigit (some mark) = false ∧ some mark ≠ some '.' := by
    obtain rfl | rfl := hmark <;> exact ⟨by decide, by decide⟩
  cases h with
  | none =>
    cases rest with
    | nil => cases hnext
    | cons first others =>
      cases hnext
      exact ⟨hrest.1, hrest.2.1⟩
  | plain hmark' _ | positive hmark' _ | negative hmark' _ =>
    cases hnext
    exact hmark hmark'

theorem scanExponent_append {exponent : Option (Bool × Input)} {text : List Char}
    (h : WrittenExponent exponent text) {rest : Input} (hrest : EndsNumber rest) :
    scanExponent (text.map some ++ rest) = some (exponent, rest) := by
  have hends : ∀ next, rest.head? = some next → isDigit next = false := fun _ ↦ isDigit_of_ends hrest
  cases h with
  | none =>
    match rest with
    | [] => rfl
    | .none :: _ => rfl
    | .some c :: _ =>
      have hlower : c ≠ 'e' := fun h ↦ hrest.2.2.1 (congrArg some h)
      have hupper : c ≠ 'E' := fun h ↦ hrest.2.2.2 (congrArg some h)
      simp [scanExponent, hlower, hupper]
  | @plain mark digits hmark hdigits =>
    obtain ⟨c, others, rfl⟩ := List.exists_cons_of_ne_nil hdigits.1
    have hc : c ≠ '-' ∧ c ≠ '+' := by
      have hdigit := hdigits.2 c List.mem_cons_self
      constructor <;> rintro rfl <;> cases hdigit
    have hscan := scanDigits_append hdigits hends
    rw [List.map_cons, List.cons_append] at hscan ⊢
    simp only [scanExponent, if_pos hmark]
    split
    · rename_i heq
      exact absurd (Option.some.inj (List.cons.inj heq).1) hc.1
    · rename_i heq
      exact absurd (Option.some.inj (List.cons.inj heq).1) hc.2
    · rw [List.map_cons, List.cons_append, hscan]
      rfl
  | positive hmark hdigits =>
    simp only [scanExponent, List.map_cons, List.cons_append, if_pos hmark, scanDigits_append hdigits hends]
    rfl
  | negative hmark hdigits =>
    simp only [scanExponent, List.map_cons, List.cons_append, if_pos hmark, scanDigits_append hdigits hends]
    rfl

theorem scanFraction_append {fraction : Option Input} {text : List Char} (h : WrittenFraction fraction text)
    {rest : Input} (hrest : ∀ next, rest.head? = some next → isDigit next = false ∧ next ≠ some '.') :
    scanFraction (text.map some ++ rest) = some (fraction, rest) := by
  cases h with
  | none =>
    match rest with
    | [] => rfl
    | .none :: _ => rfl
    | .some c :: _ =>
      have hpoint : c ≠ '.' := fun h ↦ (hrest _ rfl).2 (congrArg some h)
      rw [scanFraction.eq_def]
      simp [hpoint]
  | some hdigits =>
    have hscan := scanDigits_append hdigits fun next hnext ↦ (hrest next hnext).1
    simp only [scanFraction, List.map_cons, List.cons_append, hscan]
    rfl

/-- Whole part, fraction and exponent are read one behind the other. -/
theorem scanUnsigned_append (negative : Bool) {whole : List Char} {fraction : Option Input}
    {exponent : Option (Bool × Input)} {fractionText exponentText : List Char} (hwhole : Digits whole)
    (hzero : whole.head? = some '0' → whole.length = 1) (hfraction : WrittenFraction fraction fractionText)
    (hexponent : WrittenExponent exponent exponentText) {rest : Input} (hrest : EndsNumber rest) :
    scanUnsigned negative ((whole ++ (fractionText ++ exponentText)).map some ++ rest) =
      some (⟨negative, whole.map some, fraction, exponent⟩, rest) := by
  have hafterFraction : ∀ next, (exponentText.map some ++ rest).head? = some next →
      isDigit next = false ∧ next ≠ some '.' := fun _ ↦ hexponent.head_append hrest
  have hafterWhole : ∀ next, (fractionText.map some ++ (exponentText.map some ++ rest)).head? = some next →
      isDigit next = false := by
    intro next hnext
    cases hfraction with
    | none => exact (hafterFraction next hnext).1
    | some _ =>
      cases hnext
      decide
  have hzero' : ¬((whole.map some).head? = some (some '0') ∧ 1 < (whole.map some).length) := by
    rintro ⟨hhead, hlength⟩
    have hone := hzero (by simpa using hhead)
    rw [List.length_map, hone] at hlength
    exact absurd hlength (Nat.lt_irrefl 1)
  rw [List.map_append, List.map_append, List.append_assoc, List.append_assoc]
  simp only [scanUnsigned, scanDigits_append hwhole hafterWhole, if_neg hzero',
    scanFraction_append hfraction hafterFraction, scanExponent_append hexponent hrest]

theorem scanNumber_of_head {input : Input} (h : input.head? ≠ some (some '-')) :
    scanNumber input = scanUnsigned false input := by
  rw [scanNumber.eq_def]
  split
  · exact absurd rfl h
  · rfl

/-- A written number begins with a sign or a digit. -/
theorem WrittenNumber.head {literal : Literal} {text : List Char} (h : WrittenNumber literal text) :
    ∃ c others, text = c :: others ∧ (c = '-' ∨ c.isDigit) := by
  obtain ⟨negative, hwhole, -, -, -⟩ := h
  obtain ⟨c, others, rfl⟩ := List.exists_cons_of_ne_nil hwhole.1
  cases negative with
  | true => exact ⟨'-', _, rfl, .inl rfl⟩
  | false => exact ⟨c, _, rfl, .inr (hwhole.2 c List.mem_cons_self)⟩

/-- A written number is read as a whole. -/
theorem scanNumber_of_written {literal : Literal} {text : List Char} (h : WrittenNumber literal text)
    {rest : Input} (hrest : EndsNumber rest) : scanNumber (text.map some ++ rest) = some (literal, rest) := by
  obtain ⟨negative, hwhole, hzero, hfraction, hexponent⟩ := h
  have hscan := scanUnsigned_append negative hwhole hzero hfraction hexponent hrest
  cases negative with
  | true => exact hscan
  | false =>
    refine (scanNumber_of_head fun hhead ↦ ?_).trans hscan
    obtain ⟨c, others, rfl⟩ := List.exists_cons_of_ne_nil hwhole.1
    have hsign : c = '-' := Option.some.inj (Option.some.inj hhead)
    have hdigit := hwhole.2 c List.mem_cons_self
    rw [hsign] at hdigit
    cases hdigit

/-! ## Printed integers -/

theorem digits_toDigits (value : Nat) : Digits (Nat.toDigits 10 value) :=
  ⟨Nat.toDigits_ne_nil, fun _ hc ↦ Nat.isDigit_of_mem_toDigits (by decide) (by decide) hc⟩

/-- The integers that a literal gives exactly. -/
def IsWord (value : Int) : Prop := -9223372036854775808 ≤ value ∧ value < 18446744073709551616

/-- A printed integer is written as a literal that stands for it. -/
theorem written_printInteger {value : Int} (hword : IsWord value) :
    ∃ literal, literal.toDocument = .integer value ∧ WrittenNumber literal (printInteger value) := by
  obtain ⟨hlow, hhigh⟩ := hword
  refine ⟨⟨decide (value < 0), (Nat.toDigits 10 value.natAbs).map some, none, none⟩, ?_, ?_⟩
  · simp only [Literal.toDocument, digitsValue_toDigits]
    by_cases hnegative : value < 0
    · have hmagnitude : value.natAbs ≠ 0 ∧ value.natAbs ≤ 9223372036854775808 := by omega
      have hvalue : -(value.natAbs : Int) = value := by omega
      rw [decide_eq_true hnegative, if_pos rfl, if_pos hmagnitude, hvalue]
    · have hmagnitude : value.natAbs < 18446744073709551616 := by omega
      have hvalue : (value.natAbs : Int) = value := by omega
      rw [decide_eq_false hnegative, if_neg Bool.false_ne_true, if_pos hmagnitude, hvalue]
  · have hzero : (Nat.toDigits 10 value.natAbs).head? = some '0' →
        (Nat.toDigits 10 value.natAbs).length = 1 := by
      intro hhead
      rw [toDigits_head _ hhead]
      rfl
    have hwritten := WrittenNumber.number (decide (value < 0)) (digits_toDigits value.natAbs) hzero .none .none
    have htext : printInteger value = (if decide (value < 0) = true then ['-'] else []) ++
        (Nat.toDigits 10 value.natAbs ++ ([] ++ [])) := by
      rw [printInteger, Nat.toList_repr]
      by_cases hnegative : value < 0
      · simp [hnegative]
      · simp [hnegative]
    rw [htext]
    exact hwritten

end ContainerConstruction.Json.Document
