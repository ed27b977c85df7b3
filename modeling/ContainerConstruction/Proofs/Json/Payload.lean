import ContainerConstruction.Proofs.Json.Conforms
import Mathlib.Data.List.Forall2

/-!
# Values that are used as they stand

A document that is used as it stands gives a value whose members are sorted by name, one for each name, and
which is nested no deeper than there was room for.  Such a value is given back by its own document.
-/

namespace ContainerConstruction.Json

/-! ## Parts of a value -/

/-- What holds of a container as soon as it holds of its parts holds of every value. -/
theorem induction_parts {motive : Json → Prop} (null : motive .null) (bool : ∀ value, motive (.bool value))
    (integer : ∀ value, motive (.integer value)) (decimal : ∀ literal, motive (.decimal literal))
    (string : ∀ text, motive (.string text))
    (array : ∀ items, (∀ item ∈ items, motive item) → motive (.array items))
    (object : ∀ members, (∀ member ∈ members, motive member.2) → motive (.object members)) :
    ∀ value, motive value
  | .null => null
  | .bool value => bool value
  | .integer value => integer value
  | .decimal literal => decimal literal
  | .string text => string text
  | .array items => array items fun item _ ↦
      induction_parts null bool integer decimal string array object item
  | .object members => object members fun member _ ↦
      induction_parts null bool integer decimal string array object member.2
termination_by value => sizeOf value
decreasing_by
  · rename_i hitem
    have hsize := List.sizeOf_lt_of_mem hitem
    simp only [Json.array.sizeOf_spec]
    omega
  · rename_i hmember
    have hsize := List.sizeOf_lt_of_mem hmember
    obtain ⟨name, value⟩ := member
    simp only [Json.object.sizeOf_spec, Prod.mk.sizeOf_spec] at hsize ⊢
    omega

/-- A value that stands somewhere in another one, or is that one. -/
inductive Part : Json → Json → Prop where
  | self (value : Json) : Part value value
  | item {part item : Json} {items : List Json} (hitem : item ∈ items) (hpart : Part part item) :
      Part part (.array items)
  | member {part : Json} {member : String × Json} {members : List (String × Json)}
      (hmember : member ∈ members) (hpart : Part part member.2) : Part part (.object members)

/-- No number is a decimal. -/
def IsIntegral (value : Json) : Prop := ∀ literal, ¬Part (.decimal literal) value

/-- Members in ascending order of their names, one for each name. -/
def Ascending (members : List (String × Json)) : Prop := members.Pairwise fun first second ↦ first.1 < second.1

/-- Every object has its members in ascending order. -/
def IsSorted (value : Json) : Prop := ∀ members, Part (.object members) value → Ascending members

theorem IsSorted.item {items : List Json} (h : (array items).IsSorted) {item : Json} (hitem : item ∈ items) :
    item.IsSorted := fun members hpart ↦ h members (.item hitem hpart)

theorem IsSorted.member {members : List (String × Json)} (h : (object members).IsSorted)
    {member : String × Json} (hmember : member ∈ members) : member.2.IsSorted :=
  fun inner hpart ↦ h inner (.member hmember hpart)

theorem areExact_iff (items : List Json) : areExact items ↔ ∀ item ∈ items, item.IsExact := by
  induction items with
  | nil => simp [areExact]
  | cons item rest ih => rw [areExact, ih, List.forall_mem_cons]

theorem membersExact_iff (members : List (String × Json)) :
    membersExact members ↔ ∀ member ∈ members, member.2.IsExact := by
  induction members with
  | nil => simp [membersExact]
  | cons member rest ih => rw [membersExact, ih, List.forall_mem_cons]

/-- A value is printed exactly if none of its numbers is a decimal or out of range. -/
theorem isExact_of_parts {value : Json} (hintegral : value.IsIntegral)
    (hwords : ∀ number, Part (.integer number) value → Document.IsWord number) : value.IsExact := by
  induction value using induction_parts with
  | null | bool _ | string _ => trivial
  | integer number => exact hwords number (.self _)
  | decimal literal => exact absurd (.self _) (hintegral literal)
  | array items ih =>
    refine (areExact_iff items).mpr fun item hitem ↦ ih item hitem ?_ ?_
    · exact fun literal hpart ↦ hintegral literal (.item hitem hpart)
    · exact fun number hpart ↦ hwords number (.item hitem hpart)
  | object members ih =>
    refine (membersExact_iff members).mpr fun member hmember ↦ ih member hmember ?_ ?_
    · exact fun literal hpart ↦ hintegral literal (.member hmember hpart)
    · exact fun number hpart ↦ hwords number (.member hmember hpart)

/-- A value that is printed exactly has no decimals. -/
theorem IsExact.isIntegral {value : Json} (h : value.IsExact) : value.IsIntegral := by
  intro literal hpart
  induction hpart with
  | self => exact h
  | item hitem _ ih => exact ih ((areExact_iff _).mp h _ hitem)
  | member hmember _ ih => exact ih ((membersExact_iff _).mp h _ hmember)

/-! ## Nesting -/

mutual

/-- How many containers are nested in a value. -/
def nesting : Json → Nat
  | .array items => itemsNesting items + 1
  | .object members => membersNesting members + 1
  | _ => 0

def itemsNesting : List Json → Nat
  | [] => 0
  | item :: rest => max (nesting item) (itemsNesting rest)

def membersNesting : List (String × Json) → Nat
  | [] => 0
  | (_, value) :: rest => max (nesting value) (membersNesting rest)

end

theorem itemsNesting_le {items : List Json} {depth : Nat} :
    itemsNesting items ≤ depth ↔ ∀ item ∈ items, item.nesting ≤ depth := by
  induction items with
  | nil => simp [itemsNesting]
  | cons item rest ih => rw [itemsNesting, Nat.max_le, ih, List.forall_mem_cons]

theorem membersNesting_le {members : List (String × Json)} {depth : Nat} :
    membersNesting members ≤ depth ↔ ∀ member ∈ members, member.2.nesting ≤ depth := by
  induction members with
  | nil => simp [membersNesting]
  | cons member rest ih => rw [membersNesting, Nat.max_le, ih, List.forall_mem_cons]

theorem nesting_array_le {items : List Json} {depth : Nat} :
    (array items).nesting ≤ depth + 1 ↔ ∀ item ∈ items, item.nesting ≤ depth := by
  rw [nesting, Nat.add_le_add_iff_right, itemsNesting_le]

theorem nesting_object_le {members : List (String × Json)} {depth : Nat} :
    (object members).nesting ≤ depth + 1 ↔ ∀ member ∈ members, member.2.nesting ≤ depth := by
  rw [nesting, Nat.add_le_add_iff_right, membersNesting_le]

/-- A value that is kept as it stands: sorted, printed exactly, and nested no deeper than there is room
for. -/
structure IsPayload (value : Json) (depth : Nat) : Prop where
  sorted : value.IsSorted
  exact : value.IsExact
  nesting_le : value.nesting ≤ depth

theorem isPayload_null (depth : Nat) : Json.null.IsPayload depth where
  sorted _ hpart := nomatch hpart
  exact := trivial
  nesting_le := Nat.zero_le depth

/-! ## Sorting members -/

theorem insertSorted_concat {name : String} {members : List (String × Json)}
    (h : ∀ member ∈ members, member.1 < name) (value : Json) :
    insertSorted name value members = members ++ [(name, value)] := by
  induction members with
  | nil => rfl
  | cons member rest ih =>
    obtain ⟨hmember, hrest⟩ := List.forall_mem_cons.mp h
    have hless : ¬name < member.1 := String.lt_asymm hmember
    have hsame : name ≠ member.1 := fun hsame ↦ String.lt_irrefl _ (hsame ▸ hmember)
    rw [insertSorted, if_neg hless, if_neg hsame, ih hrest, List.cons_append]

theorem mem_insertSorted {name : String} {value : Json} {members : List (String × Json)}
    {member : String × Json} (h : member ∈ insertSorted name value members) :
    member = (name, value) ∨ member ∈ members := by
  induction members with
  | nil => exact .inl (List.mem_singleton.mp h)
  | cons other rest ih =>
    unfold insertSorted at h
    split_ifs at h with hless hsame
    · exact List.mem_cons.mp h
    · exact (List.mem_cons.mp h).imp_right (List.mem_cons_of_mem _)
    · obtain rfl | hrest := List.mem_cons.mp h
      · exact .inr List.mem_cons_self
      · exact (ih hrest).imp_right (List.mem_cons_of_mem _)

theorem Ascending.insertSorted {members : List (String × Json)} (h : Ascending members) (name : String)
    (value : Json) : Ascending (Json.insertSorted name value members) := by
  induction members with
  | nil => exact List.pairwise_singleton _ _
  | cons other rest ih =>
    obtain ⟨hother, hrest⟩ := List.pairwise_cons.mp h
    unfold Json.insertSorted
    split_ifs with hless hsame
    · refine List.pairwise_cons.mpr ⟨List.forall_mem_cons.mpr ⟨hless, fun member hmember ↦ ?_⟩, h⟩
      exact String.lt_trans hless (hother member hmember)
    · exact List.pairwise_cons.mpr ⟨fun member hmember ↦ hsame ▸ hother member hmember, hrest⟩
    · have hgreater : other.1 < name := Std.lt_of_le_of_ne (String.not_lt.mp hless) (Ne.symm hsame)
      refine List.pairwise_cons.mpr ⟨fun member hmember ↦ ?_, ih hrest⟩
      obtain rfl | hmember := mem_insertSorted hmember
      · exact hgreater
      · exact hother member hmember

/-- Members sorted by name; of equally named ones the last is kept. -/
def sorted (members : List (String × Json)) : List (String × Json) :=
  members.foldl (fun sorted (name, value) ↦ insertSorted name value sorted) []

theorem sorted_concat (members : List (String × Json)) (name : String) (value : Json) :
    sorted (members ++ [(name, value)]) = insertSorted name value (sorted members) := by
  rw [sorted, List.foldl_append]
  rfl

/-- Sorted members are in ascending order, one for each name. -/
theorem ascending_sorted (members : List (String × Json)) : Ascending (sorted members) := by
  induction members using List.reverseRecOn with
  | nil => exact .nil
  | append_singleton members member ih =>
    rw [sorted_concat]
    exact ih.insertSorted member.1 member.2

theorem mem_of_mem_sorted {members : List (String × Json)} {member : String × Json}
    (h : member ∈ sorted members) : member ∈ members := by
  induction members using List.reverseRecOn with
  | nil => cases h
  | append_singleton members last ih =>
    rw [sorted_concat] at h
    obtain rfl | h := mem_insertSorted h
    · exact List.mem_append_right _ (List.mem_singleton_self _)
    · exact List.mem_append_left _ (ih h)

/-- Members in ascending order are sorted already. -/
theorem Ascending.sorted_eq {members : List (String × Json)} (h : Ascending members) :
    sorted members = members := by
  induction members using List.reverseRecOn with
  | nil => rfl
  | append_singleton members last ih =>
    obtain ⟨hmembers, -, hlast⟩ := List.pairwise_append.mp h
    rw [sorted_concat, ih hmembers]
    exact insertSorted_concat (fun member hmember ↦ hlast member hmember last List.mem_cons_self) last.2

/-! ## The value of a document -/

theorem ofMembers_eq (members : List (String × Json)) :
    Document.ofMembers members = members.map fun member ↦ (some member.1, Document.ofJson member.2) := by
  induction members with
  | nil => rfl
  | cons member rest ih => rw [Document.ofMembers, ih, List.map_cons]

namespace Document

theorem itemsToJson?_eq_some {depth : Nat} {documents : List Document} {items : List Json} :
    itemsToJson? depth documents = some items ↔
      List.Forall₂ (fun document item ↦ toJson? depth document = some item) documents items := by
  induction documents generalizing items with
  | nil => simp [itemsToJson?, eq_comm]
  | cons document rest ih =>
    rw [itemsToJson?, List.forall₂_cons_left_iff]
    constructor
    · intro h
      split at h <;> cases h
      rename_i item others hitem hothers
      exact ⟨item, others, hitem, ih.mp hothers, rfl⟩
    · rintro ⟨item, others, hitem, hothers, rfl⟩
      rw [hitem, ih.mpr hothers]

theorem membersToJson?_eq_some {depth : Nat} {documents : List (Option String × Document)}
    {members : List (String × Json)} :
    membersToJson? depth documents = some members ↔ List.Forall₂ (fun document member ↦
      document.1 = some member.1 ∧ toJson? depth document.2 = some member.2) documents members := by
  induction documents generalizing members with
  | nil => simp [membersToJson?, eq_comm]
  | cons document rest ih =>
    rw [membersToJson?.eq_def, List.forall₂_cons_left_iff]
    constructor
    · intro h
      dsimp only at h
      split at h <;> cases h
      rename_i name value others hname hvalue hothers
      exact ⟨(name, value), others, ⟨hname, hvalue⟩, ih.mp hothers, rfl⟩
    · rintro ⟨member, others, ⟨hname, hvalue⟩, hothers, rfl⟩
      simp only [hname, hvalue, ih.mpr hothers]

/-- An array has the values of its items. -/
theorem toJson?_array {depth : Nat} {documents : List Document} {closed : Bool} {value : Json} :
    toJson? depth (.array documents closed) = some value ↔ ∃ less items, depth = less + 1 ∧ closed = true ∧
      List.Forall₂ (fun document item ↦ toJson? less document = some item) documents items ∧
        value = .array items := by
  rw [toJson?]
  cases depth with
  | zero => simp
  | succ less => cases closed <;> simp [Option.map_eq_some_iff, itemsToJson?_eq_some, @eq_comm _ value]

/-- An object has the values of its members, sorted. -/
theorem toJson?_object {depth : Nat} {documents : List (Option String × Document)} {closed : Bool}
    {value : Json} :
    toJson? depth (.object documents closed) = some value ↔ ∃ less members, depth = less + 1 ∧ closed = true ∧
      List.Forall₂ (fun document member ↦
        document.1 = some member.1 ∧ toJson? less document.2 = some member.2) documents members ∧
          value = .object (sorted members) := by
  rw [toJson?]
  cases depth with
  | zero => simp
  | succ less =>
    cases closed <;> simp [Option.map_eq_some_iff, membersToJson?_eq_some, sorted, @eq_comm _ value]

/-- A sorted value is the value of its own document, if there is room for its containers. -/
theorem toJson?_ofJson {value : Json} (hsorted : value.IsSorted) {depth : Nat}
    (hdepth : value.nesting ≤ depth) : toJson? depth (ofJson value) = some value := by
  induction value using Json.induction_parts generalizing depth with
  | null | bool _ | integer _ | decimal _ | string _ => rfl
  | array items ih =>
    obtain ⟨depth, rfl⟩ : ∃ less, depth = less + 1 := ⟨depth - 1, by rw [nesting] at hdepth; omega⟩
    refine toJson?_array.mpr ⟨depth, items, rfl, rfl, ?_, rfl⟩
    rw [Reader.ofItems_eq, List.forall₂_map_left_iff, List.forall₂_same]
    exact fun item hitem ↦ ih item hitem (hsorted.item hitem) (nesting_array_le.mp hdepth item hitem)
  | object members ih =>
    obtain ⟨depth, rfl⟩ : ∃ less, depth = less + 1 := ⟨depth - 1, by rw [nesting] at hdepth; omega⟩
    have hascending : sorted members = members := (hsorted members (.self _)).sorted_eq
    refine toJson?_object.mpr ⟨depth, members, rfl, rfl, ?_, congrArg Json.object hascending.symm⟩
    rw [ofMembers_eq, List.forall₂_map_left_iff, List.forall₂_same]
    exact fun member hmember ↦
      ⟨rfl, ih member hmember (hsorted.member hmember) (nesting_object_le.mp hdepth member hmember)⟩

/-- More room does not change a value. -/
theorem toJson?_mono {document : Document} {depth deeper : Nat} {value : Json}
    (h : document.toJson? depth = some value) (hdeeper : depth ≤ deeper) :
    document.toJson? deeper = some value := by
  induction document using Document.induction_parts generalizing depth deeper value with
  | broken | null | bool _ | integer _ | decimal _ _ | string _ => exact h
  | array documents closed ih =>
    obtain ⟨less, items, rfl, hclosed, hitems, rfl⟩ := toJson?_array.mp h
    refine toJson?_array.mpr ⟨deeper - 1, items, by omega, hclosed, ?_, rfl⟩
    refine List.Forall₂.imp ?_ ((List.forall₂_and_left _ _).mpr ⟨ih, hitems⟩)
    exact fun document item hitem ↦ hitem.1 hitem.2 (by omega)
  | object documents closed ih =>
    obtain ⟨less, members, rfl, hclosed, hmembers, rfl⟩ := toJson?_object.mp h
    refine toJson?_object.mpr ⟨deeper - 1, members, by omega, hclosed, ?_, rfl⟩
    refine List.Forall₂.imp ?_ ((List.forall₂_and_left _ _).mpr ⟨ih, hmembers⟩)
    exact fun document member hmember ↦ ⟨hmember.2.1, hmember.1 hmember.2.2 (by omega)⟩

/-- Every item on the right is related to one on the left. -/
theorem exists_related {γ δ : Type} {related : γ → δ → Prop} {first : List γ} {second : List δ}
    (h : List.Forall₂ related first second) : ∀ right ∈ second, ∃ left ∈ first, related left right := by
  induction h with
  | nil => exact List.forall_mem_nil _
  | cons hrelated _ ih =>
    refine List.forall_mem_cons.mpr ⟨⟨_, List.mem_cons_self, hrelated⟩, fun right hright ↦ ?_⟩
    obtain ⟨left, hleft, hrelated⟩ := ih right hright
    exact ⟨left, List.mem_cons_of_mem _ hleft, hrelated⟩

/-- How a document gives a value: one without parts stands for itself, and the parts of a container are given
by parts of the document. -/
inductive Gives : Nat → Document → Json → Prop where
  | plain {depth : Nat} {value : Json} (hnesting : value.nesting = 0) : Gives depth (ofJson value) value
  | array {depth : Nat} {documents : List Document} {closed : Bool} {items : List Json}
      (hitems : ∀ item ∈ items, ∃ origin ∈ documents, toJson? depth origin = some item) :
      Gives (depth + 1) (.array documents closed) (.array items)
  | object {depth : Nat} {documents : List (Option String × Document)} {closed : Bool}
      {members : List (String × Json)} (hascending : Ascending members)
      (hmembers : ∀ member ∈ members, ∃ origin ∈ documents, toJson? depth origin.2 = some member.2) :
      Gives (depth + 1) (.object documents closed) (.object members)

/-- What a document stands for is given by it, part by part. -/
theorem gives_of_toJson? {document : Document} {depth : Nat} {value : Json}
    (h : document.toJson? depth = some value) : Gives depth document value := by
  cases document with
  | broken => cases h
  | null =>
    cases h
    exact @Gives.plain _ .null rfl
  | bool given =>
    cases h
    exact @Gives.plain _ (.bool given) rfl
  | integer given =>
    cases h
    exact @Gives.plain _ (.integer given) rfl
  | decimal literal finite =>
    cases finite <;> cases h
    exact @Gives.plain _ (.decimal literal) rfl
  | string text =>
    obtain ⟨text, rfl, rfl⟩ := Option.map_eq_some_iff.mp h
    exact @Gives.plain _ (.string text) rfl
  | array documents closed =>
    obtain ⟨less, items, rfl, -, hitems, rfl⟩ := toJson?_array.mp h
    exact .array (exists_related hitems)
  | object documents closed =>
    obtain ⟨less, members, rfl, -, hmembers, rfl⟩ := toJson?_object.mp h
    refine .object (ascending_sorted members) fun member hmember ↦ ?_
    obtain ⟨origin, horigin, -, hvalue⟩ := exists_related hmembers member (mem_of_mem_sorted hmember)
    exact ⟨origin, horigin, hvalue⟩

/-- There was room for the containers of a value. -/
theorem nesting_le_of_toJson? {document : Document} {depth : Nat} {value : Json}
    (h : document.toJson? depth = some value) : value.nesting ≤ depth := by
  induction value using Json.induction_parts generalizing document depth with
  | null | bool _ | integer _ | decimal _ | string _ => exact Nat.zero_le depth
  | array items ih =>
    cases gives_of_toJson? h with
    | plain hnesting => cases hnesting
    | array hitems =>
      refine nesting_array_le.mpr fun item hitem ↦ ?_
      obtain ⟨origin, -, horigin⟩ := hitems item hitem
      exact ih item hitem horigin
  | object members ih =>
    cases gives_of_toJson? h with
    | plain hnesting => cases hnesting
    | object _ hmembers =>
      refine nesting_object_le.mpr fun member hmember ↦ ?_
      obtain ⟨origin, -, horigin⟩ := hmembers member hmember
      exact ih member hmember horigin

/-- A document that stands somewhere in another one, or is that one. -/
inductive Part : Document → Document → Prop where
  | self (document : Document) : Part document document
  | item {part item : Document} {items : List Document} {closed : Bool} (hitem : item ∈ items)
      (hpart : Part part item) : Part part (.array items closed)
  | member {part : Document} {member : Option String × Document} {members : List (Option String × Document)}
      {closed : Bool} (hmember : member ∈ members) (hpart : Part part member.2) :
      Part part (.object members closed)

/-- Every part of a value is the value of a part of its document. -/
theorem exists_part {document : Document} {depth : Nat} {value part : Json}
    (h : document.toJson? depth = some value) (hpart : Json.Part part value) :
    ∃ origin within, Part origin document ∧ origin.toJson? within = some part := by
  induction hpart generalizing document depth with
  | self => exact ⟨document, depth, .self document, h⟩
  | item hitem _ ih =>
    cases gives_of_toJson? h with
    | plain hnesting => cases hnesting
    | array hitems =>
      obtain ⟨inner, hinner, hvalue⟩ := hitems _ hitem
      obtain ⟨origin, within, horigin, hpart⟩ := ih hvalue
      exact ⟨origin, within, .item hinner horigin, hpart⟩
  | member hmember _ ih =>
    cases gives_of_toJson? h with
    | plain hnesting => cases hnesting
    | object _ hmembers =>
      obtain ⟨inner, hinner, hvalue⟩ := hmembers _ hmember
      obtain ⟨origin, within, horigin, hpart⟩ := ih hvalue
      exact ⟨origin, within, .member hinner horigin, hpart⟩

/-- What is read of a document has its members sorted. -/
theorem isSorted_of_toJson? {document : Document} {depth : Nat} {value : Json}
    (h : document.toJson? depth = some value) : value.IsSorted := by
  intro members hpart
  obtain ⟨origin, within, -, hmembers⟩ := exists_part h hpart
  cases gives_of_toJson? hmembers with
  | plain hnesting => cases hnesting
  | object hascending _ => exact hascending

end Document

end ContainerConstruction.Json
