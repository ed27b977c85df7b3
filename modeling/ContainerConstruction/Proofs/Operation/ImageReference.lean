import ContainerConstruction.Operation.Image
import Mathlib.Tactic.SplitIfs

/-!
# What image references stand for

Every text that begins like a reference to a descriptor is one, or it is refused; it never falls back to a
path.  `ImageSource.Denotes` says which texts stand for a descriptor: the number of digits does not matter, only
their value.  A reference that is read is written again as one that stands for the same image.
-/

namespace ContainerConstruction.ImageSource

/-! ## Descriptors -/

/-- A text stands for a descriptor: it is made of decimal digits, at least one, whose value is in range. -/
structure Denotes (text : String) (number : Nat) : Prop where
  ne_empty : text ≠ ""
  isDigit : ∀ c ∈ text.toList, c.isDigit
  value : Nat.ofDigitChars 10 text.toList 0 = number
  inRange : number ≤ 2147483647

theorem decimal_eq (digits : List Char) : decimal digits = Nat.ofDigitChars 10 digits 0 := by
  unfold decimal Nat.ofDigitChars
  refine congrArg (fun step ↦ digits.foldl step 0) (funext fun value ↦ funext fun digit ↦ ?_)
  rw [Nat.mul_comm]
  rfl

theorem isDigit_iff (c : Char) : (decide ('0' ≤ c) && decide (c ≤ '9')) = c.isDigit := by
  simp [Char.isDigit, Char.le_def, UInt32.le_iff_toNat_le]

/-- A text is read as the descriptor that it denotes. -/
theorem descriptor?_eq_some_iff {text : String} {number : Nat} :
    descriptor? text.toList = some number ↔ Denotes text number := by
  have hdigits : (text.toList.isEmpty || !text.toList.all fun c ↦ '0' ≤ c && c ≤ '9') = false ↔
      text ≠ "" ∧ ∀ c ∈ text.toList, c.isDigit := by
    simp [isDigit_iff]
  unfold descriptor?
  rw [decimal_eq]
  constructor
  · intro h
    split_ifs at h with hmalformed hlarge
    cases h
    obtain ⟨hne, hall⟩ := hdigits.mp (eq_false_of_ne_true hmalformed)
    exact ⟨hne, hall, rfl, Nat.le_of_not_lt hlarge⟩
  · rintro ⟨hne, hall, rfl, hrange⟩
    rw [hdigits.mpr ⟨hne, hall⟩, if_neg Bool.false_ne_true]
    exact if_neg (Nat.not_lt.mpr hrange)

/-- A text is refused if it denotes no descriptor. -/
theorem descriptor?_eq_none_iff {text : String} :
    descriptor? text.toList = none ↔ ∀ number, ¬Denotes text number := by
  simp [Option.eq_none_iff_forall_ne_some, descriptor?_eq_some_iff]

/-- Every number in range is denoted by its digits. -/
theorem denotes_toString {number : Nat} (h : number ≤ 2147483647) : Denotes (toString number) number where
  ne_empty := by
    rw [Nat.toString_eq_ofList_toDigits, ne_eq, ← String.toList_eq_nil_iff, String.toList_ofList]
    exact Nat.toDigits_ne_nil
  isDigit c hc := by
    rw [Nat.toString_eq_ofList_toDigits, String.toList_ofList] at hc
    exact Nat.isDigit_of_mem_toDigits (by decide) (by decide) hc
  value := by
    rw [Nat.toString_eq_ofList_toDigits, String.toList_ofList]
    exact Nat.ofDigitChars_ten_toDigits
  inRange := h

/-! ## References -/

/-- The failure to read a reference that begins like one to a descriptor. -/
def invalidDescriptor (reference : String) : Failure :=
  .config s!"invalid image file descriptor in {Text.quoted reference}"

/-- What a reference is read as. -/
inductive Reads (reference : String) : Except Failure ImageSource → Prop
  | inherited {text : String} {number : Nat} (hreference : reference = "/proc/self/fd/" ++ text)
    (hdenotes : Denotes text number) : Reads reference (.ok (.inherited number))
  | refused {text : String} (hreference : reference = "/proc/self/fd/" ++ text)
    (hnone : ∀ number, ¬Denotes text number) :
    Reads reference (.error (invalidDescriptor reference))
  | path (hreference : ∀ text, reference ≠ "/proc/self/fd/" ++ text) : Reads reference (.ok (.path reference))

theorem ofReference_descriptor (text : String) :
    ofReference ("/proc/self/fd/" ++ text) =
      match descriptor? text.toList with
      | some number => .ok (.inherited number)
      | none => .error (invalidDescriptor ("/proc/self/fd/" ++ text)) := by
  have hprefix : descriptorPrefix.toList.isPrefixOf ("/proc/self/fd/" ++ text).toList := by
    rw [String.toList_append]
    exact List.isPrefixOf_iff_prefix.mpr (List.prefix_append _ _)
  have hrest : ("/proc/self/fd/" ++ text).toList.drop descriptorPrefix.length = text.toList := by
    rw [String.toList_append, ← String.length_toList]
    exact List.drop_left
  rw [ofReference, if_pos hprefix, hrest]
  rfl

/-- What does not begin like a descriptor is a path. -/
theorem ofReference_path {reference : String} (h : ∀ text, reference ≠ "/proc/self/fd/" ++ text) :
    ofReference reference = .ok (.path reference) := by
  refine if_neg fun hprefix ↦ ?_
  obtain ⟨rest, hrest⟩ := List.isPrefixOf_iff_prefix.mp hprefix
  have hreference : reference = descriptorPrefix ++ String.ofList rest := by
    rw [← String.toList_inj, String.toList_append, String.toList_ofList, hrest]
  exact h (String.ofList rest) hreference

theorem Reads.eq {reference : String} {result : Except Failure ImageSource} (h : Reads reference result) :
    ofReference reference = result := by
  cases h with
  | inherited hreference hdenotes =>
    rw [hreference, ofReference_descriptor, descriptor?_eq_some_iff.mpr hdenotes]
  | refused hreference hnone =>
    rw [hreference, ofReference_descriptor, descriptor?_eq_none_iff.mpr hnone]
  | path hreference => exact ofReference_path hreference

theorem reads_ofReference (reference : String) : Reads reference (ofReference reference) := by
  by_cases hreference : ∃ text, reference = "/proc/self/fd/" ++ text
  · obtain ⟨text, rfl⟩ := hreference
    rw [ofReference_descriptor]
    cases hdescriptor : descriptor? text.toList with
    | some number => exact .inherited rfl (descriptor?_eq_some_iff.mp hdescriptor)
    | none => exact .refused rfl (descriptor?_eq_none_iff.mp hdescriptor)
  · have hpath : ∀ text, reference ≠ "/proc/self/fd/" ++ text := not_exists.mp hreference
    rw [ofReference_path hpath]
    exact .path hpath

/-- A reference is read as what it stands for, and the name of an image that was read is read as that image. -/
theorem reference_grammar (reference : String) :
    (∀ result, ofReference reference = result ↔ Reads reference result) ∧
      ∀ source, Reads reference (.ok source) → ofReference source.name = .ok source := by
  refine ⟨fun result ↦ ⟨fun h ↦ h ▸ reads_ofReference reference, Reads.eq⟩, fun source hreads ↦ ?_⟩
  cases hreads with
  | inherited _ hdenotes => exact Reads.eq (.inherited rfl (denotes_toString hdenotes.inRange))
  | path hreference => exact ofReference_path hreference

/-- Zeros in front do not matter: the largest descriptor is read, and read again from its name. -/
theorem reference_grammar_padded :
    ofReference "/proc/self/fd/000000000000000000002147483647" = .ok (.inherited 2147483647) ∧
      ofReference "/proc/self/fd/2147483647" = .ok (.inherited 2147483647) := by
  have hdigits : "000000000000000000002147483647".toList.all Char.isDigit := by decide
  have hdenotes : Denotes "000000000000000000002147483647" 2147483647 :=
    ⟨by decide, List.all_eq_true.mp hdigits, rfl, Nat.le_refl _⟩
  have hreads : Reads "/proc/self/fd/000000000000000000002147483647" (.ok (.inherited 2147483647)) :=
    .inherited rfl hdenotes
  have hname : (ImageSource.inherited 2147483647).name = "/proc/self/fd/2147483647" := by decide
  exact ⟨((reference_grammar _).1 _).mpr hreads, hname ▸ (reference_grammar _).2 _ hreads⟩

end ContainerConstruction.ImageSource
