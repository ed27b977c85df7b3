import ContainerConstruction.Proofs.Json.Payload
import ContainerConstruction.Proofs.Json.Tagged

/-!
# What is written for an accepted document

A value that has been read is written in one way, whatever its document left out, reordered or added.  A
`Completion` tells that text from the document alone: members stand in declared order, and an absent one has
its default.  `Completes` says that a reader and a writer agree with a completion; it is established here for
plain values, for lists and for names.
-/

namespace ContainerConstruction.Json

/-! ## Parts of a record -/

namespace Document

/-- The document that stands for a member of a record: the first member of that name, or the item in its
place. -/
def part? (names : List String) (name : String) : Document → Option Document
  | .object members _ => members.lookup (some name)
  | .array items _ => (names.zip items).lookup name
  | _ => none

/-- What a tag says, alone or as the only member of an object. -/
def tagName? : Document → Option String
  | .string text => text
  | .object [(name, _)] _ => name
  | _ => none

theorem part_of_part? {names : List String} {name : String} {document part : Document}
    (h : document.part? names name = some part) : Part part document := by
  cases document with
  | object members closed =>
    obtain ⟨before, after, hmembers, -⟩ := List.lookup_eq_some_iff.mp h
    have hmember : (some name, part) ∈ members := by simp [hmembers]
    exact .member hmember (.self part)
  | array items closed =>
    obtain ⟨before, after, hitems, -⟩ := List.lookup_eq_some_iff.mp h
    have hzip : (name, part) ∈ names.zip items := by simp [hitems]
    exact .item (List.of_mem_zip hzip).2 (.self part)
  | broken | null | bool _ | integer _ | decimal _ _ | string _ => cases h

end Document

/-! ## Completions -/

/-- What is written for a document. -/
abbrev Completion := Document → Json

/-- How a member is written that may be absent. -/
inductive Presence where
  /-- The member is always there. -/
  | required
  /-- An absent member is written out with a default. -/
  | filled (default : Json)
  /-- An absent list is an empty one, and an empty list is not written. -/
  | unlessEmpty

namespace Presence

/-- What stands for an absent member. -/
def default? : Presence → Option Json
  | .required => none
  | .filled default => some default
  | .unlessEmpty => some (.array [])

/-- A member as it is written. -/
def written (name : String) : Presence → Json → List (String × Json)
  | .unlessEmpty, .array [] => []
  | _, value => [(name, value)]

end Presence

/-- One member of a record. -/
structure Member where
  name : String
  complete : Completion
  presence : Presence

/-- A member as it is written for its part of the document. -/
def Member.written (member : Member) (part : Option Document) : List (String × Json) :=
  match (part.map member.complete).or member.presence.default? with
  | none => []
  | some value => member.presence.written member.name value

namespace Completion

/-- A value without parts is written as it was given. -/
def plain : Completion
  | .bool value => .bool value
  | .integer value => .integer value
  | .string (some text) => .string text
  | _ => .null

/-- A value that is used as it stands has its members sorted, and of equally named ones the last. -/
def payload : Completion := fun document ↦ (document.toJson? Position.maximalDepth).getD .null

/-- A name is written alone. -/
def named : Completion := fun document ↦ Json.optional .string document.tagName?

def optional (part : Completion) : Completion
  | .null => .null
  | document => part document

def list (item : Completion) : Completion
  | .array documents _ => .array (documents.map item)
  | _ => .null

/-- All members are written in declared order, and nothing else. -/
def record (members : List Member) : Completion := fun document ↦
  .object (members.flatMap fun member ↦ member.written (document.part? (members.map (·.name)) member.name))

/-- The tag is written in front of its content. -/
def tagged (tag content : String) (cases : List (String × Completion)) : Completion := fun document ↦
  match (document.part? [tag, content] tag).bind Document.tagName?, document.part? [tag, content] content with
  | some name, some part =>
    match cases.lookup name with
    | some complete => .object [(tag, .string name), (content, complete part)]
    | none => .null
  | _, _ => .null

end Completion

namespace Reader

variable {α β : Type}

/-- What is written for a value that was read, where at most `room` containers may be opened, is the
completion of its document. -/
structure Completes (room : Nat) (read : Reader α) (write : α → Json) (complete : Completion) : Prop where
  write_eq {position : Position} {document : Document} {value : α} (hroom : position.depth ≤ room)
    (h : read position document = .ok value) : write value = complete document

/-- Inside a container there is room for fewer of them. -/
theorem depth_le_of_enter {position inside : Position} (h : position.enter = .ok inside) :
    inside.depth ≤ position.depth := by
  unfold Position.enter at h
  split_ifs at h <;> cases h
  · exact Nat.le_refl _
  · exact Nat.sub_le position.depth 1

/-! ## Plain values -/

theorem completes_string {room : Nat} : Completes room string Json.string .plain where
  write_eq _ h := by
    unfold string at h
    split at h <;> cases h
    rfl

theorem completes_bool {room : Nat} : Completes room bool Json.bool .plain where
  write_eq _ h := by
    unfold bool at h
    split at h <;> cases h
    rfl

/-- An integer is written as it was given if every integer of the range stands for a value of its own. -/
theorem completes_integer {room : Nat} {lowest highest : Int} {toInt : α → Int} {ofInt : Int → α}
    (hinverse : ∀ number, lowest ≤ number → number ≤ highest → toInt (ofInt number) = number) :
    Completes room (fun position document ↦ (integer lowest highest position document).map ofInt)
      (fun value ↦ .integer (toInt value)) .plain where
  write_eq _ h := by
    dsimp only [integer] at h
    split at h
    · split_ifs at h with hrange <;> cases h
      exact congrArg Json.integer (hinverse _ hrange.1 hrange.2)
    · cases h

theorem completes_uint8 {room : Nat} : Completes room uint8 (fun value ↦ .nat value.toNat) .plain := by
  refine completes_integer fun number hlow hhigh ↦ ?_
  rw [UInt8.toNat_ofNat']
  omega

theorem completes_uint32 {room : Nat} : Completes room uint32 (fun value ↦ .nat value.toNat) .plain := by
  refine completes_integer fun number hlow hhigh ↦ ?_
  rw [UInt32.toNat_ofNat']
  omega

theorem completes_uint64 {room : Nat} : Completes room uint64 (fun value ↦ .nat value.toNat) .plain := by
  refine completes_integer fun number hlow hhigh ↦ ?_
  rw [UInt64.toNat_ofNat']
  omega

theorem completes_int32 {room : Nat} : Completes room int32 (fun value ↦ .integer value.toInt) .plain :=
  completes_integer fun _ hlow hhigh ↦ Int32.toInt_ofInt_of_le (by omega) (by omega)

theorem completes_json : Completes Position.maximalDepth json id .payload where
  write_eq hroom h := by
    unfold json at h
    split at h <;> cases h
    rename_i given hgiven
    exact (congrArg (Option.getD · .null) (Document.toJson?_mono hgiven hroom)).symm

/-- An absent value is written as `null`. -/
theorem completes_optional {room : Nat} {read : Reader α} {write : α → Json} {complete : Completion}
    (h : Completes room read write complete) :
    Completes room (optional read) (Json.optional write) (.optional complete) where
  write_eq {position document value} hroom hread := by
    unfold optional at hread
    split at hread
    · cases hread
      rfl
    · rename_i hnull
      cases hpart : read position document with
      | error error => simp [hpart, Except.map] at hread
      | ok part =>
        simp only [hpart, Except.map, Except.ok.injEq] at hread
        subst hread
        calc
          write part = complete document := h.write_eq hroom hpart
          _ = Completion.optional complete document := by
            cases document <;> first | rfl | exact absurd rfl hnull

theorem map_items {read : Reader α} {write : α → Json} {complete : Completion} {inside : Position}
    (h : ∀ document value, read inside document = .ok value → write value = complete document)
    {documents : List Document} {values : List α} (hitems : items read inside documents = .ok values) :
    values.map write = documents.map complete := by
  induction documents generalizing values with
  | nil =>
    cases hitems
    rfl
  | cons document rest ih =>
    rw [items] at hitems
    cases hfirst : read inside document with
    | error error => simp [hfirst] at hitems
    | ok first =>
      cases hothers : items read inside rest with
      | error error => simp [hfirst, hothers, Except.map] at hitems
      | ok others =>
        simp only [hfirst, hothers, Except.map, Except.ok.injEq] at hitems
        subst hitems
        rw [List.map_cons, List.map_cons, h document first hfirst, ih hothers]

theorem completes_list {room : Nat} {read : Reader α} {write : α → Json} {complete : Completion}
    (h : Completes room read write complete) :
    Completes room (list read) (fun values ↦ .array (values.map write)) (.list complete) where
  write_eq {position document values} hroom hread := by
    unfold list at hread
    split at hread
    · rename_i documents closed
      cases henter : position.enter with
      | error error => simp [henter] at hread
      | ok inside =>
        cases hitems : items read inside documents with
        | error error => simp [henter, hitems] at hread
        | ok given =>
          simp only [henter, hitems] at hread
          split_ifs at hread
          cases hread
          have hinside := Nat.le_trans (depth_le_of_enter henter) hroom
          exact congrArg Json.array (map_items (fun _ _ ↦ h.write_eq hinside) hitems)
    · cases hread

/-! ## Names -/

theorem mem_of_selectVariant {variants : List (String × α)} {name : String} {variant : α}
    (h : selectVariant variants name = .ok variant) : (name, variant) ∈ variants := by
  unfold selectVariant at h
  split at h <;> cases h
  rename_i other hfind
  have hname : other = name := by simpa using List.find?_some hfind
  exact hname ▸ List.mem_of_find?_eq_some hfind

/-- Where no variant carries a value, a name that is read stands for its variant, in either way to write it. -/
theorem mem_of_variant {variants : List (String × Variant α)}
    (hbare : ∀ entry ∈ variants, ∃ given, entry.2 = .bare given) {position : Position} {document : Document}
    {value : α} (h : variant variants position document = .ok value) :
    ∃ name, document.tagName? = some name ∧ (name, .bare value) ∈ variants := by
  cases document with
  | string text =>
    cases text with
    | none => cases h
    | some name =>
      simp only [variant] at h
      cases hselect : selectVariant variants name with
      | error error => simp [hselect] at h
      | ok found =>
        have hfound := mem_of_selectVariant hselect
        obtain ⟨given, rfl⟩ := hbare _ hfound
        simp only [hselect] at h
        cases h
        exact ⟨name, rfl, hfound⟩
  | object documents closed =>
    obtain ⟨name, document, inside, found, rfl, hselect, hvalue⟩ := variant_object_inv h
    have hfound := mem_of_selectVariant hselect
    obtain ⟨given, rfl⟩ := hbare _ hfound
    unfold ofVariant at hvalue
    split_ifs at hvalue
    cases hvalue
    exact ⟨name, rfl, hfound⟩
  | broken | null | bool _ | integer _ | decimal _ _ | array _ _ => cases h

theorem mem_of_choice {names : List (String × α)} {position : Position} {document : Document} {value : α}
    (h : choice names position document = .ok value) :
    ∃ name, document.tagName? = some name ∧ (name, value) ∈ names := by
  obtain ⟨name, hname, hvariant⟩ := mem_of_variant (List.forall_mem_map.mpr fun entry _ ↦ ⟨entry.2, rfl⟩) h
  obtain ⟨⟨other, given⟩, hentry, hsame⟩ := List.mem_map.mp hvariant
  cases hsame
  exact ⟨name, hname, hentry⟩

theorem completes_choice {room : Nat} {names : List (String × α)} {write : α → Json}
    (h : ∀ entry ∈ names, write entry.2 = .string entry.1) : Completes room (choice names) write .named where
  write_eq {position document value} _ hread := by
    obtain ⟨name, hname, hmember⟩ := mem_of_choice hread
    calc
      write value = .string name := h (name, value) hmember
      _ = Completion.named document := by rw [Completion.named, hname, Json.optional]

end Reader

end ContainerConstruction.Json
