import ContainerConstruction.Proofs.Json.Conforms
import ContainerConstruction.Proofs.Json.Payload

/-!
# Values that are read back

`Recovers` speaks of all values of a type.  A payload is given back only if it is sorted and not nested too
deep, and with it the records that hold it; `Restores` therefore speaks of one value.  It is established for
payloads and for records in declared order.
-/

namespace ContainerConstruction.Json

namespace Reader

variable {α β : Type}

/-- A reader gives one value back from what was written for it, wherever `depth` containers may still be
opened. -/
structure Restores (read : Reader α) (json : Json) (depth : Nat) (value : α) : Prop where
  exact : json.IsExact
  read_eq {position : Position} (hdepth : depth ≤ position.depth) :
    read position (Document.ofJson json) = .ok value

/-- What is recovered everywhere is restored at any place that is deep enough. -/
theorem Recovers.restores {read : Reader α} {write : α → Json} {least depth : Nat}
    (h : Recovers read write least) (hdepth : least ≤ depth) (value : α) :
    Restores read (write value) depth value where
  exact := h.exact value
  read_eq hposition := h.read_eq value (Nat.le_trans hdepth hposition)

/-- Only `null` is the tree of `null`. -/
theorem ofJson_ne_null {value : Json} (h : value ≠ .null) : Document.ofJson value ≠ .null := by
  cases value with
  | null => exact absurd rfl h
  | bool _ | integer _ | decimal _ | string _ | array _ | object _ => exact nofun

/-- An absent value is read back, unless a present one is written as `null`. -/
theorem recovers_optional {read : Reader α} {write : α → Json} {depth : Nat} (h : Recovers read write depth)
    (hnull : ∀ value, write value ≠ .null) : Recovers (optional read) (Json.optional write) depth where
  exact value := by
    cases value with
    | none => trivial
    | some value => exact h.exact value
  read_eq value position hdepth := by
    cases value with
    | none => rfl
    | some value =>
      have hdocument := ofJson_ne_null (hnull value)
      unfold optional Json.optional
      split
      · contradiction
      · rw [h.read_eq value hdepth]
        rfl

theorem restores_json {payload : Json} {depth : Nat} (h : payload.IsPayload depth) :
    Restores json payload depth payload where
  exact := h.exact
  read_eq {position} hdepth := by
    have hvalue := Document.toJson?_ofJson h.sorted (Nat.le_trans h.nesting_le hdepth)
    simp only [json, hvalue]

/-! ## Records -/

namespace Fields

/-- Members give the fields of a record their values, in declared order. -/
inductive Filled (depth : Nat) : {α : Type} → Fields α → List String → List (String × Json) → α → Prop where
  | done {α : Type} (build : α) : Filled depth (.done build) [] [] build
  | field {α β : Type} {name : String} {read : Reader β} {absent : Option β} {rest : Fields (β → α)}
      {names : List String} {json : Json} {values : List (String × Json)} {value : β} {build : β → α}
      (hread : Restores read json depth value) (hrest : Filled depth rest names values build) :
      Filled depth (.field name read absent none rest) (name :: names) ((name, json) :: values) (build value)

variable {depth : Nat} {fields : Fields α} {names : List String} {values : List (String × Json)} {value : α}

theorem Filled.exact (h : Filled depth fields names values value) : membersExact values := by
  induction h with
  | done => trivial
  | field hread _ ih => exact ⟨hread.exact, ih⟩

theorem Filled.names_eq (h : Filled depth fields names values value) : values.map (·.1) = names := by
  induction h with
  | done => rfl
  | field _ _ ih => rw [List.map_cons, ih]

/-- By induction on the fields: each takes the first of the members that are left. -/
theorem Filled.putAll_eq (h : Filled depth fields names values value) (hnodup : names.Nodup)
    {inside : Position} (hinside : depth ≤ inside.depth) :
    ∃ taken, fields.putAll inside (Document.ofMembers values) = .ok taken ∧ taken.finish = .ok value := by
  induction h with
  | done build => exact ⟨.done build, rfl, rfl⟩
  | @field _ _ name _ _ _ names _ values _ _ hread hrest ih =>
    obtain ⟨hname, hnodup⟩ := List.nodup_cons.mp hnodup
    obtain ⟨taken, hput, hfinish⟩ := ih hnodup
    have hothers : ∀ member ∈ Document.ofMembers values, member.1 ≠ some name := by
      rw [ofMembers_eq, List.forall_mem_map]
      intro member hmember hsame
      refine hname ?_
      rw [← hrest.names_eq, ← Option.some.inj hsame]
      exact List.mem_map_of_mem hmember
    refine ⟨_, putAll_insert (hread.read_eq hinside) (List.forall_mem_nil _) hothers hput, ?_⟩
    simp [finish, hfinish, Except.map]

end Fields

/-- A record is restored from its members, if no two of them have the same name. -/
theorem restores_record {fields : Fields α} {names : List String} {values : List (String × Json)} {depth : Nat}
    {value : α} (hnodup : names.Nodup) (h : fields.Filled depth names values value) :
    Restores (record fields) (.object values) (depth + 1) value where
  exact := h.exact
  read_eq {position} hdepth := by
    obtain ⟨inside, henter, hinside⟩ := enter_of_lt hdepth
    obtain ⟨taken, hput, hfinish⟩ := h.putAll_eq hnodup hinside
    simp only [Document.ofJson, record, henter, hput, hfinish, if_true]

theorem recovers_record {fields : Fields α} {names : List String} {write : α → List (String × Json)}
    {depth : Nat} (hnodup : names.Nodup) (h : ∀ value, fields.Filled depth names (write value) value) :
    Recovers (record fields) (fun value ↦ .object (write value)) (depth + 1) where
  exact value := (restores_record hnodup (h value)).exact
  read_eq value _ hdepth := (restores_record hnodup (h value)).read_eq hdepth

end Reader

end ContainerConstruction.Json
