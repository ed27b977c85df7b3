import ContainerConstruction.Proofs.Json.Payload

/-!
# Integers of a scanned document

The scanner keeps an integer literal as an integer only in the range of the 64-bit integers, and as a decimal
otherwise.  A value without decimals that is taken from a scanned document is therefore printed exactly.
-/

namespace ContainerConstruction.Json.Document

/-- Every integer is in the range of the 64-bit integers. -/
def HasWords (document : Document) : Prop := ∀ number, Part (.integer number) document → IsWord number

theorem HasWords.part {document part : Document} (h : document.HasWords) (hpart : Part part document) :
    part.HasWords := by
  induction hpart with
  | self => exact h
  | item hitem _ ih => exact ih fun number hnumber ↦ h number (.item hitem hnumber)
  | member hmember _ ih => exact ih fun number hnumber ↦ h number (.member hmember hnumber)

theorem hasWords_broken : broken.HasWords := by
  intro number hpart
  cases hpart

theorem hasWords_array {items : List Document} (h : ∀ item ∈ items, item.HasWords) (closed : Bool) :
    (array items closed).HasWords := by
  intro number hpart
  cases hpart with
  | item hitem hpart => exact h _ hitem number hpart

theorem hasWords_object {members : List (Option String × Document)}
    (h : ∀ member ∈ members, member.2.HasWords) (closed : Bool) : (object members closed).HasWords := by
  intro number hpart
  cases hpart with
  | member hmember hpart => exact h _ hmember number hpart

/-- A literal that is no word is kept as a decimal. -/
theorem hasWords_toDocument (literal : Literal) : literal.toDocument.HasWords := by
  intro number hpart
  unfold Literal.toDocument at hpart
  split at hpart
  · dsimp only at hpart
    split_ifs at hpart with hnegative hrange hrange <;> cases hpart
    · exact ⟨by omega, by omega⟩
    · exact ⟨by omega, by omega⟩
  · cases hpart

theorem hasWords_scanScalar (c : Char) (rest : Input) : (scanScalar c rest).1.HasWords := by
  unfold scanScalar
  split_ifs
  · split <;> exact nofun
  · split <;> exact nofun
  · split <;> exact nofun
  · split <;> exact nofun
  -- only a number may be an integer
  · split
    · exact hasWords_toDocument _
    · exact nofun

/-! ## One unit of fuel more -/

section

variable {fuel : Nat} (hvalue : ∀ input, (scanValue fuel input).1.HasWords)
  (hitems : ∀ input, ∀ item ∈ (scanItems fuel input).1, item.HasWords)
  (hmembers : ∀ input, ∀ member ∈ (scanMembers fuel input).1, member.2.HasWords)

include hitems hmembers in
theorem hasWords_scanValue_succ (input : Input) : (scanValue (fuel + 1) input).1.HasWords := by
  unfold scanValue
  split
  · split
    · exact hasWords_array (List.forall_mem_nil _) true
    · exact hasWords_array (hitems _) _
  · split
    · exact hasWords_object (List.forall_mem_nil _) true
    · exact hasWords_object (hmembers _) _
  · exact hasWords_scanScalar _ _
  · exact hasWords_broken

include hvalue hitems in
theorem hasWords_scanItems_succ (input : Input) :
    ∀ item ∈ (scanItems (fuel + 1) input).1, item.HasWords := by
  have hitem := hvalue input
  unfold scanItems
  cases hscan : scanValue fuel input with
  | mk item after =>
    rw [hscan] at hitem
    cases after with
    | none => exact List.forall_mem_singleton.mpr hitem
    | some afterItem =>
      dsimp only
      split
      · exact List.forall_mem_singleton.mpr hitem
      · exact List.forall_mem_cons.mpr ⟨hitem, hitems _⟩
      · exact List.forall_mem_singleton.mpr hitem

include hvalue hmembers in
theorem hasWords_scanMembers_succ (input : Input) :
    ∀ member ∈ (scanMembers (fuel + 1) input).1, member.2.HasWords := by
  unfold scanMembers
  split
  · split
    · exact List.forall_mem_nil _
    · split
      · rename_i pieces _ _ beforeValue _
        have hmember := hvalue beforeValue
        cases hscan : scanValue fuel beforeValue with
        | mk value after =>
          rw [hscan] at hmember
          cases after with
          | none => exact List.forall_mem_singleton.mpr hmember
          | some afterValue =>
            dsimp only
            split
            · exact List.forall_mem_singleton.mpr hmember
            · exact List.forall_mem_cons.mpr ⟨hmember, hmembers _⟩
            · exact List.forall_mem_singleton.mpr hmember
      · exact List.forall_mem_singleton.mpr hasWords_broken
  · exact List.forall_mem_nil _

end

/-! ## Whole documents -/

/-- By induction on the fuel, for values, items and members together. -/
theorem hasWords_scanned (fuel : Nat) :
    (∀ input, (scanValue fuel input).1.HasWords) ∧
    (∀ input, ∀ item ∈ (scanItems fuel input).1, item.HasWords) ∧
    (∀ input, ∀ member ∈ (scanMembers fuel input).1, member.2.HasWords) := by
  induction fuel with
  | zero => exact ⟨fun _ ↦ hasWords_broken, fun _ ↦ List.forall_mem_nil _, fun _ ↦ List.forall_mem_nil _⟩
  | succ fuel ih =>
    obtain ⟨hvalue, hitems, hmembers⟩ := ih
    exact ⟨hasWords_scanValue_succ hitems hmembers, hasWords_scanItems_succ hvalue hitems,
      hasWords_scanMembers_succ hvalue hmembers⟩

/-- Whatever the input, the integers of its document are words. -/
theorem hasWords_scan (input : Input) : (scan input).1.HasWords := by
  have hvalue := (hasWords_scanned (2 * input.length + 2)).1 input
  unfold scan
  split
  · rename_i document rest hscan
    rw [hscan] at hvalue
    exact hvalue
  · rename_i document hscan
    rw [hscan] at hvalue
    exact hvalue

/-- A value without decimals that is taken from a scanned document is kept as it stands. -/
theorem HasWords.isPayload {document : Document} (hwords : document.HasWords) {depth : Nat} {value : Json}
    (h : document.toJson? depth = some value) (hintegral : value.IsIntegral) : value.IsPayload depth where
  sorted := isSorted_of_toJson? h
  exact := by
    refine isExact_of_parts hintegral fun number hpart ↦ ?_
    obtain ⟨origin, within, horigin, hnumber⟩ := exists_part h hpart
    cases gives_of_toJson? hnumber with
    | plain _ => exact hwords number horigin
  nesting_le := nesting_le_of_toJson? h

end ContainerConstruction.Json.Document
