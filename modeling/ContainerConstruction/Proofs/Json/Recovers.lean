import ContainerConstruction.Proofs.Json.Grammar
import ContainerConstruction.Json.Reader

/-!
# Readers that give back what was written

`Recovers` relates a reader to the way its values are written.  It is established here for plain values, for
lists and for names.
-/

namespace ContainerConstruction.Json.Reader

variable {α : Type}

/-- A reader gives back what was written, wherever `depth` containers may still be opened. -/
structure Recovers (read : Reader α) (write : α → Json) (depth : Nat) : Prop where
  exact (value : α) : (write value).IsExact
  read_eq (value : α) {position : Position} (hdepth : depth ≤ position.depth) :
    read position (Document.ofJson (write value)) = .ok value

/-- There is room for a container, and inside it for one container less. -/
theorem enter_of_lt {position : Position} {depth : Nat} (h : depth < position.depth) :
    ∃ inside, position.enter = .ok inside ∧ depth ≤ inside.depth := by
  unfold Position.enter
  split
  · exact ⟨position, rfl, Nat.le_of_lt h⟩
  · have hroom : position.depth ≠ 0 := by omega
    have hless : depth ≤ position.depth - 1 := by omega
    exact ⟨{ position with depth := position.depth - 1 }, if_neg hroom, hless⟩

/-! ## Plain values -/

theorem recovers_string : Recovers string Json.string 0 where
  exact _ := trivial
  read_eq _ _ _ := rfl

theorem recovers_bool : Recovers bool Json.bool 0 where
  exact _ := trivial
  read_eq _ _ _ := rfl

/-- A type of integers is recovered if its values lie within the bounds of its reader. -/
theorem recovers_integer {lowest highest : Int} {toInt : α → Int} {ofInt : Int → α}
    (hlowest : -9223372036854775808 ≤ lowest) (hhighest : highest < 18446744073709551616)
    (hbounds : ∀ value, lowest ≤ toInt value ∧ toInt value ≤ highest)
    (hinverse : ∀ value, ofInt (toInt value) = value) :
    Recovers (fun position document ↦ (integer lowest highest position document).map ofInt)
      (fun value ↦ .integer (toInt value)) 0 where
  exact value := by
    obtain ⟨hlow, hhigh⟩ := hbounds value
    exact ⟨by omega, by omega⟩
  read_eq value position _ := by
    simp only [Document.ofJson, integer, hbounds value, and_self, if_true, Except.map, hinverse]

theorem recovers_uint8 : Recovers uint8 (fun value ↦ .nat value.toNat) 0 := by
  refine recovers_integer (by decide) (by decide) (fun value ↦ ?_) fun value ↦ UInt8.ofNat_toNat
  have hbound := value.toNat_lt
  omega

theorem recovers_uint32 : Recovers uint32 (fun value ↦ .nat value.toNat) 0 := by
  refine recovers_integer (by decide) (by decide) (fun value ↦ ?_) fun value ↦ UInt32.ofNat_toNat
  have hbound := value.toNat_lt
  omega

theorem recovers_uint64 : Recovers uint64 (fun value ↦ .nat value.toNat) 0 := by
  refine recovers_integer (by decide) (by decide) (fun value ↦ ?_) fun value ↦ UInt64.ofNat_toNat
  have hbound := value.toNat_lt
  omega

theorem recovers_int32 : Recovers int32 (fun value ↦ .integer value.toInt) 0 := by
  refine recovers_integer (by decide) (by decide) (fun value ↦ ?_) fun value ↦ Int32.ofInt_toInt value
  have hlow := value.le_toInt
  have hhigh := value.toInt_lt
  omega

/-! ## Lists -/

theorem areExact_map {write : α → Json} (h : ∀ value, (write value).IsExact) (values : List α) :
    areExact (values.map write) := by
  induction values with
  | nil => trivial
  | cons value others ih => exact ⟨h value, ih⟩

theorem items_map {read : Reader α} {write : α → Json} {position : Position}
    (h : ∀ value, read position (Document.ofJson (write value)) = .ok value) (values : List α) :
    items read position (Document.ofItems (values.map write)) = .ok values := by
  induction values with
  | nil => rfl
  | cons value others ih =>
    rw [List.map_cons, Document.ofItems, items, h, ih]
    rfl

/-- A list is read back if its items are, one container further inside. -/
theorem Recovers.list {read : Reader α} {write : α → Json} {depth : Nat} (h : Recovers read write depth) :
    Recovers (list read) (fun values ↦ .array (values.map write)) (depth + 1) where
  exact values := areExact_map h.exact values
  read_eq values position hdepth := by
    obtain ⟨inside, henter, hinside⟩ := enter_of_lt hdepth
    simp only [Document.ofJson, Reader.list, henter, items_map (fun value ↦ h.read_eq value hinside), if_true]

/-! ## Names -/

theorem selectVariant_bare {names : List (String × α)} {name : String} {value : α}
    (h : names.find? (·.1 = name) = some (name, value)) :
    selectVariant (names.map fun (name, value) ↦ (name, Variant.bare value)) name = .ok (.bare value) := by
  have hfind : (names.map fun (name, value) ↦ (name, Variant.bare value)).find? (·.1 = name) =
      some (name, .bare value) := by
    rw [List.find?_map]
    exact congrArg (Option.map _) h
  rw [selectVariant, hfind]

theorem choice_eq {names : List (String × α)} {name : String} {value : α}
    (h : names.find? (·.1 = name) = some (name, value)) (position : Position) :
    choice names position (.string (some name)) = .ok value := by
  simp only [choice, variant, selectVariant_bare h]

end ContainerConstruction.Json.Reader
