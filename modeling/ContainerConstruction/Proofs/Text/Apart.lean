import ContainerConstruction.Proofs.Text.Size
import Mathlib.Data.List.TakeWhile
import Mathlib.Tactic.SplitIfs

/-!
# Texts that are told apart

A diagnostic puts texts behind each other, and it is of use only if they can be told apart again.  A quoted text ends
at its quote, and everything else that is written there, such as a number, ends before a mark that is no part of it.
-/

namespace ContainerConstruction.Text

/-! ## Words and digits -/

/-- A word ends before the first character that no word has. -/
theorem word_append_inj {isLetter : Char → Bool} {first second rest other : List Char} {mark otherMark : Char}
    (hfirst : ∀ c ∈ first, isLetter c = true) (hsecond : ∀ c ∈ second, isLetter c = true)
    (hmark : isLetter mark = false) (hotherMark : isLetter otherMark = false)
    (h : first ++ mark :: rest = second ++ otherMark :: other) :
    first = second ∧ mark :: rest = otherMark :: other := by
  have hword := congrArg (List.takeWhile isLetter) h
  rw [List.takeWhile_append_of_pos hfirst, List.takeWhile_append_of_pos hsecond,
    List.takeWhile_cons_of_neg (Bool.eq_false_iff.mp hmark),
    List.takeWhile_cons_of_neg (Bool.eq_false_iff.mp hotherMark), List.append_nil, List.append_nil] at hword
  rw [hword] at h
  exact ⟨hword, List.append_cancel_left h⟩

theorem digitChar_inj {first second : Nat} (hfirst : first < 16) (hsecond : second < 16)
    (h : Nat.digitChar first = Nat.digitChar second) : first = second := by
  have hall : ∀ first < 16, ∀ second < 16, Nat.digitChar first = Nat.digitChar second → first = second := by decide
  exact hall first hfirst second hsecond h

theorem length_toDigits_of_base_le {value : Nat} (h : 16 ≤ value) : 1 < (Nat.toDigits 16 value).length := by
  rw [Nat.toDigits_of_base_le (by decide) h, List.length_append, List.length_singleton]
  exact Nat.succ_lt_succ (List.length_pos_iff.mpr Nat.toDigits_ne_nil)

/-- A number is known by its hexadecimal digits. -/
theorem toDigits_inj {first second : Nat} (h : Nat.toDigits 16 first = Nat.toDigits 16 second) : first = second := by
  induction first using Nat.strong_induction_on generalizing second with
  | _ first ih =>
    have hlength := congrArg List.length h
    rcases Nat.lt_or_ge first 16 with hfirst | hfirst <;> rcases Nat.lt_or_ge second 16 with hsecond | hsecond
    · rw [Nat.toDigits_of_lt_base hfirst, Nat.toDigits_of_lt_base hsecond] at h
      exact digitChar_inj hfirst hsecond (List.head_eq_of_cons_eq h)
    · have hlong := length_toDigits_of_base_le hsecond
      rw [← hlength, Nat.toDigits_of_lt_base hfirst] at hlong
      exact absurd hlong (Nat.lt_irrefl 1)
    · have hlong := length_toDigits_of_base_le hfirst
      rw [hlength, Nat.toDigits_of_lt_base hsecond] at hlong
      exact absurd hlong (Nat.lt_irrefl 1)
    · rw [Nat.toDigits_of_base_le (by decide) hfirst, Nat.toDigits_of_base_le (by decide) hsecond] at h
      obtain ⟨hhigh, hlow⟩ := List.append_inj' h rfl
      have hquotient : first / 16 = second / 16 := ih _ (by omega) hhigh
      have hremainder : first % 16 = second % 16 :=
        digitChar_inj (Nat.mod_lt _ (by decide)) (Nat.mod_lt _ (by decide)) (List.head_eq_of_cons_eq hlow)
      omega

/-! ## Quoted texts -/

/-- The characters that have a letter behind a backslash. -/
def escapes : List (Char × Char) :=
  [('"', '"'), ('\\', '\\'), ('\n', 'n'), ('\r', 'r'), ('\t', 't'), ('\x00', '0')]

/-- How a character stands between quotes. -/
inductive QuotedAs (c : Char) : List Char → Prop where
  | plain (hquote : c ≠ '"') (hbackslash : c ≠ '\\') : QuotedAs c [c]
  | letter {letter : Char} (hescape : (c, letter) ∈ escapes) : QuotedAs c ['\\', letter]
  | code : QuotedAs c ('\\' :: 'u' :: '\x7b' :: (Nat.toDigits 16 c.toNat ++ ['\x7d']))

/-- Every character stands between quotes in one of the ways of `QuotedAs`. -/
theorem quotedAs_quoteChar (c : Char) : QuotedAs c (quoteChar c) := by
  unfold quoteChar
  split_ifs with hquote hbackslash hnewline hreturn htab hzero
  · subst hquote
    exact .letter (by decide)
  · subst hbackslash
    exact .letter (by decide)
  · subst hnewline
    exact .letter (by decide)
  · subst hreturn
    exact .letter (by decide)
  · subst htab
    exact .letter (by decide)
  · subst hzero
    exact .letter (by decide)
  · rw [hexadecimal, String.toList_ofList, List.append_assoc]
    exact .code
  · exact .plain hquote hbackslash

/-- A number in braces is told by its digits. -/
theorem digits_append_inj {first second : Nat} {rest other : List Char}
    (h : Nat.toDigits 16 first ++ '\x7d' :: rest = Nat.toDigits 16 second ++ '\x7d' :: other) :
    first = second ∧ rest = other := by
  have hdigit (value : Nat) : ∀ c ∈ Nat.toDigits 16 value, decide (c ≠ '\x7d') = true := by
    have hall : ∀ digit < 16, decide (Nat.digitChar digit ≠ '\x7d') = true := by decide
    intro c hc
    obtain ⟨digit, hsmall, rfl⟩ := exists_of_mem_toDigits value c hc
    exact hall digit hsmall
  obtain ⟨hdigits, hrest⟩ := word_append_inj (hdigit first) (hdigit second) (by decide) (by decide) h
  exact ⟨toDigits_inj hdigits, (List.cons.inj hrest).2⟩

/-- Characters are told apart by how they are quoted. -/
theorem quoteChar_append_inj {c d : Char} {rest other : List Char} (h : quoteChar c ++ rest = quoteChar d ++ other) :
    c = d ∧ rest = other := by
  have hescapes : ∀ e ∈ escapes, ∀ f ∈ escapes, e.2 = f.2 → e.1 = f.1 := by decide
  have hletters : ∀ e ∈ escapes, e.2 ≠ 'u' := by decide
  have hfirst := quotedAs_quoteChar c
  have hsecond := quotedAs_quoteChar d
  generalize quoteChar c = written at h hfirst
  generalize quoteChar d = otherWritten at h hsecond
  cases hfirst with
  | plain _ hbackslash =>
    cases hsecond with
    | plain => exact List.cons.inj h
    | letter => exact absurd (List.cons.inj h).1 hbackslash
    | code => exact absurd (List.cons.inj h).1 hbackslash
  | letter hescape =>
    cases hsecond with
    | plain _ hbackslash => exact absurd (List.cons.inj h).1.symm hbackslash
    | letter hother =>
      obtain ⟨hletter, hrest⟩ := List.cons.inj (List.cons.inj h).2
      exact ⟨hescapes _ hescape _ hother hletter, hrest⟩
    | code => exact absurd (List.cons.inj (List.cons.inj h).2).1 (hletters _ hescape)
  | code =>
    cases hsecond with
    | plain _ hbackslash => exact absurd (List.cons.inj h).1.symm hbackslash
    | letter hescape => exact absurd (List.cons.inj (List.cons.inj h).2).1.symm (hletters _ hescape)
    | code =>
      simp only [List.cons_append, List.append_assoc, List.cons.injEq, true_and, List.nil_append] at h
      obtain ⟨hvalue, hrest⟩ := digits_append_inj h
      exact ⟨Char.toNat_inj.mp hvalue, hrest⟩

/-- No character is quoted as the closing quote. -/
theorem quoteChar_ne_quote (c : Char) (rest other : List Char) : quoteChar c ++ rest ≠ '"' :: other := by
  have hwritten := quotedAs_quoteChar c
  generalize quoteChar c = written at hwritten
  intro h
  cases hwritten with
  | plain hquote => exact hquote (List.cons.inj h).1
  | letter => cases h
  | code => cases h

/-- Quoted texts are told apart by all that is in front of the closing quote. -/
theorem quoteChars_append_inj {first second rest other : List Char}
    (h : first.flatMap quoteChar ++ '"' :: rest = second.flatMap quoteChar ++ '"' :: other) :
    first = second ∧ rest = other := by
  induction first generalizing second with
  | nil =>
    cases second with
    | nil => exact ⟨rfl, (List.cons.inj h).2⟩
    | cons d others =>
      rw [List.flatMap_cons, List.append_assoc] at h
      exact absurd h.symm (quoteChar_ne_quote d _ _)
  | cons c chars ih =>
    cases second with
    | nil =>
      rw [List.flatMap_cons, List.append_assoc] at h
      exact absurd h (quoteChar_ne_quote c _ _)
    | cons d others =>
      rw [List.flatMap_cons, List.flatMap_cons, List.append_assoc, List.append_assoc] at h
      obtain ⟨rfl, hafter⟩ := quoteChar_append_inj h
      obtain ⟨rfl, hrest⟩ := ih hafter
      exact ⟨rfl, hrest⟩

/-- A quoted text ends at its quote. -/
theorem quoted_append_inj {first second : String} {rest other : List Char}
    (h : (quoted first).toList ++ rest = (quoted second).toList ++ other) : first = second ∧ rest = other := by
  simp only [quoted, String.toList_ofList, List.cons_append, List.append_assoc, List.nil_append, List.cons.injEq,
    true_and] at h
  obtain ⟨hchars, hrest⟩ := quoteChars_append_inj h
  exact ⟨String.toList_inj.mp hchars, hrest⟩

/-- Texts are told apart by their quoted forms. -/
theorem quoted_inj {first second : String} : quoted first = quoted second ↔ first = second := by
  refine ⟨fun h ↦ ?_, congrArg quoted⟩
  have htexts : (quoted first).toList ++ [] = (quoted second).toList ++ [] := by rw [h]
  exact (quoted_append_inj htexts).1

/-! ## Texts before a mark -/

/-- The marks behind a part of a diagnostic. -/
def isMark (c : Char) : Bool := c = ',' || c = ' ' || c = ']' || c = '('

/-- Text that begins with a mark. -/
def Marked (rest : List Char) : Prop := ∃ mark tail, isMark mark = true ∧ rest = mark :: tail

/-- Two texts that are told apart, whatever is behind the marks behind them. -/
def Apart (first second : String) : Prop :=
  ∀ ⦃rest other : List Char⦄, Marked rest → Marked other →
    first.toList ++ rest = second.toList ++ other → first = second ∧ rest = other

theorem Apart.append_left {first second : String} (h : Apart first second) (before : String) :
    Apart (before ++ first) (before ++ second) := by
  intro rest other hrest hother hsame
  rw [String.toList_append, String.toList_append, List.append_assoc, List.append_assoc] at hsame
  obtain ⟨rfl, hafter⟩ := h hrest hother (List.append_cancel_left hsame)
  exact ⟨rfl, hafter⟩

theorem Apart.append_right {first second : String} (h : Apart first second) (after : String)
    (hafter : ∀ rest, Marked (after.toList ++ rest)) : Apart (first ++ after) (second ++ after) := by
  intro rest other _ _ hsame
  rw [String.toList_append, String.toList_append, List.append_assoc, List.append_assoc] at hsame
  obtain ⟨rfl, hrest⟩ := h (hafter rest) (hafter other) hsame
  exact ⟨rfl, List.append_cancel_left hrest⟩

/-- Texts without any mark are told apart by the mark behind them. -/
theorem apart_of_unmarked {first second : String} (hfirst : ∀ c ∈ first.toList, isMark c = false)
    (hsecond : ∀ c ∈ second.toList, isMark c = false) : Apart first second := by
  rintro rest other ⟨mark, tail, hmark, rfl⟩ ⟨otherMark, otherTail, hotherMark, rfl⟩ h
  have hnot {chars : List Char} (hchars : ∀ c ∈ chars, isMark c = false) : ∀ c ∈ chars, (!isMark c) = true :=
    fun c hc ↦ by rw [hchars c hc]; rfl
  obtain ⟨hword, hrest⟩ := word_append_inj (hnot hfirst) (hnot hsecond) (by rw [hmark]; rfl)
    (by rw [hotherMark]; rfl) h
  exact ⟨String.toList_inj.mp hword, hrest⟩

/-- Quoted texts may hold marks, since quotes end them. -/
theorem apart_quoted (first second : String) : Apart (quoted first) (quoted second) := by
  intro rest other _ _ h
  obtain ⟨hsame, hrest⟩ := quoted_append_inj h
  exact ⟨congrArg quoted hsame, hrest⟩

theorem isMark_of_isDigit {c : Char} (h : c.isDigit = true) : isMark c = false := by
  rw [Bool.eq_false_iff]
  intro hmark
  simp only [isMark, Bool.or_eq_true, decide_eq_true_eq] at hmark
  rcases hmark with ((rfl | rfl) | rfl) | rfl <;> exact absurd h (by decide)

theorem isMark_of_mem_nat (value : Nat) : ∀ c ∈ (toString value).toList, isMark c = false := by
  intro c hc
  rw [Nat.toString_eq_ofList_toDigits, String.toList_ofList] at hc
  exact isMark_of_isDigit (Nat.isDigit_of_mem_toDigits (by decide) (by decide) hc)

theorem apart_nat (first second : Nat) : Apart (toString first) (toString second) :=
  apart_of_unmarked (isMark_of_mem_nat first) (isMark_of_mem_nat second)

theorem isMark_of_mem_int (value : Int) : ∀ c ∈ (toString value).toList, isMark c = false := by
  cases value with
  | ofNat value => exact isMark_of_mem_nat value
  | negSucc value =>
    have hminus : (toString (Int.negSucc value)).toList = '-' :: (toString (value + 1)).toList :=
      String.toList_append
    rw [hminus]
    exact List.forall_mem_cons.mpr ⟨by decide, isMark_of_mem_nat (value + 1)⟩

theorem apart_int (first second : Int) : Apart (toString first) (toString second) :=
  apart_of_unmarked (isMark_of_mem_int first) (isMark_of_mem_int second)

end ContainerConstruction.Text
