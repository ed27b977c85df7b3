import ContainerConstruction.Proofs.Json.Completed

/-!
# Readers that look at values only

Two documents are alike if they have the same value and repeat no name.  They may differ in the order of their
members and in the place that they are read at: one may be read from a text, and the other one from memory.  A
reader is extensional if it reads alike documents alike.  The readers of plain values are, and so are those of
lists and records whose parts have such readers.
-/

namespace ContainerConstruction.Json

/-! ## Documents that repeat no name -/

/-- In no object two members have the same name. -/
def IsUnrepeated (value : Json) : Prop := ∀ members, Part (.object members) value → (members.map (·.1)).Nodup

/-- Sorted members repeat no name. -/
theorem IsSorted.isUnrepeated {value : Json} (h : value.IsSorted) : value.IsUnrepeated := by
  intro members hpart
  rw [List.Nodup, List.pairwise_map]
  refine (h members hpart).imp fun {first second} hless hsame ↦ ?_
  rw [hsame] at hless
  exact String.lt_irrefl _ hless

/-- A value without parts repeats nothing. -/
theorem isUnrepeated_of_nesting {value : Json} (h : value.nesting = 0) : value.IsUnrepeated := by
  intro members hpart
  cases hpart with
  | self => cases h
  | item => cases h
  | member => cases h

@[simp]
theorem isUnrepeated_null : Json.null.IsUnrepeated := isUnrepeated_of_nesting rfl

@[simp]
theorem isUnrepeated_bool (value : Bool) : (bool value).IsUnrepeated := isUnrepeated_of_nesting rfl

@[simp]
theorem isUnrepeated_nat (value : Nat) : (nat value).IsUnrepeated := isUnrepeated_of_nesting rfl

@[simp]
theorem isUnrepeated_string (text : String) : (string text).IsUnrepeated := isUnrepeated_of_nesting rfl

@[simp]
theorem isUnrepeated_array (items : List Json) :
    (array items).IsUnrepeated ↔ ∀ item ∈ items, item.IsUnrepeated := by
  constructor
  · exact fun h item hitem members hpart ↦ h members (.item hitem hpart)
  · intro h members hpart
    cases hpart with
    | item hitem hpart => exact h _ hitem members hpart

/-- An object repeats no name if neither its members nor their values do. -/
@[simp]
theorem isUnrepeated_object (members : List (String × Json)) :
    (object members).IsUnrepeated ↔
      (members.map (·.1)).Nodup ∧ ∀ member ∈ members, member.2.IsUnrepeated := by
  constructor
  · exact fun h ↦ ⟨h members (.self _), fun member hmember inner hpart ↦ h inner (.member hmember hpart)⟩
  · rintro ⟨hnames, h⟩ inner hpart
    cases hpart with
    | self => exact hnames
    | member hmember hpart => exact h _ hmember inner hpart

@[simp]
theorem isUnrepeated_strings (texts : List String) : (strings texts).IsUnrepeated := by
  simp [strings]

@[simp]
theorem isUnrepeated_optional {α : Type} {write : α → Json} (h : ∀ value, (write value).IsUnrepeated)
    (value : Option α) : (Json.optional write value).IsUnrepeated := by
  cases value with
  | none => exact isUnrepeated_null
  | some value => exact h value

namespace Document

/-- In no object two members have the same name. -/
def IsUnrepeated (document : Document) : Prop :=
  ∀ members closed, Part (.object members closed) document → (members.map (·.1)).Nodup

theorem IsUnrepeated.item {items : List Document} {closed : Bool} (h : (array items closed).IsUnrepeated)
    {item : Document} (hitem : item ∈ items) : item.IsUnrepeated :=
  fun members closed hpart ↦ h members closed (.item hitem hpart)

theorem IsUnrepeated.member {members : List (Option String × Document)} {closed : Bool}
    (h : (object members closed).IsUnrepeated) {member : Option String × Document} (hmember : member ∈ members) :
    member.2.IsUnrepeated :=
  fun inner closed hpart ↦ h inner closed (.member hmember hpart)

theorem isUnrepeated_ofJson {value : Json} (h : value.IsUnrepeated) : (ofJson value).IsUnrepeated := by
  induction value using Json.induction_parts with
  | null | bool _ | integer _ | decimal _ | string _ =>
    intro members closed hpart
    cases hpart
  | array items ih =>
    intro members closed hpart
    rw [ofJson, Reader.ofItems_eq] at hpart
    cases hpart with
    | item hitem hpart =>
      obtain ⟨item, hmember, rfl⟩ := List.mem_map.mp hitem
      exact ih item hmember ((isUnrepeated_array items).mp h item hmember) members closed hpart
  | object values ih =>
    obtain ⟨hnames, hvalues⟩ := (isUnrepeated_object values).mp h
    intro members closed hpart
    rw [ofJson, ofMembers_eq] at hpart
    cases hpart with
    | self =>
      have hnames := hnames.map fun _ _ ↦ Option.some.inj
      rw [List.map_map] at hnames ⊢
      exact hnames
    | member hmember hpart =>
      obtain ⟨member, hvalue, rfl⟩ := List.mem_map.mp hmember
      exact ih member hvalue (hvalues member hvalue) members closed hpart

/-! ## Documents with the same value -/

/-- Documents with the same value, which repeat no name. -/
structure Alike (depth : Nat) (first second : Document) : Prop where
  unrepeated : first.IsUnrepeated ∧ second.IsUnrepeated
  value : ∃ value, first.toJson? depth = some value ∧ second.toJson? depth = some value

variable {depth : Nat} {first second : Document}

theorem Alike.symm (h : Alike depth first second) : Alike depth second first where
  unrepeated := h.unrepeated.symm
  value := h.value.imp fun _ ↦ And.symm

/-- A document is like the one of its value. -/
theorem alike_ofJson {document : Document} {value : Json} (hunrepeated : document.IsUnrepeated)
    (h : document.toJson? depth = some value) : Alike depth document (ofJson value) where
  unrepeated := ⟨hunrepeated, isUnrepeated_ofJson (isSorted_of_toJson? h).isUnrepeated⟩
  value := ⟨value, h, toJson?_ofJson (isSorted_of_toJson? h) (nesting_le_of_toJson? h)⟩

/-- There is only one document like one without parts. -/
theorem Alike.eq_ofJson (plain : Json) (hplain : plain.nesting = 0) (h : Alike depth (ofJson plain) second) :
    second = ofJson plain := by
  obtain ⟨value, hfirst, hsecond⟩ := h.value
  have hvalue : toJson? depth (ofJson plain) = some plain := by
    cases plain with
    | array items => cases hplain
    | object members => cases hplain
    | _ => rfl
  cases hvalue.symm.trans hfirst
  cases gives_of_toJson? hsecond with
  | plain => rfl
  | array => cases hplain
  | object => cases hplain

theorem forall₂_alike {documents others : List Document} {items : List Json}
    (hdocuments : ∀ document ∈ documents, document.IsUnrepeated) (hothers : ∀ other ∈ others, other.IsUnrepeated)
    (hfirst : List.Forall₂ (fun document item ↦ toJson? depth document = some item) documents items)
    (hsecond : List.Forall₂ (fun document item ↦ toJson? depth document = some item) others items) :
    List.Forall₂ (Alike depth) documents others := by
  induction hfirst generalizing others with
  | nil =>
    cases hsecond
    exact .nil
  | cons hitem _ ih =>
    cases hsecond with
    | cons hother hrest =>
      obtain ⟨hself, hlater⟩ := List.forall_mem_cons.mp hdocuments
      obtain ⟨hselfOther, hlaterOther⟩ := List.forall_mem_cons.mp hothers
      exact .cons ⟨⟨hself, hselfOther⟩, _, hitem, hother⟩ (ih hlater hlaterOther hrest)

/-- What is like an array is an array of alike items. -/
theorem Alike.array {documents : List Document} {closed : Bool}
    (h : Alike depth (.array documents closed) second) :
    ∃ less others, depth = less + 1 ∧ closed = true ∧ second = .array others true ∧
      List.Forall₂ (Alike less) documents others := by
  obtain ⟨hfirst, hsecond⟩ := h.unrepeated
  obtain ⟨value, hvalue, hother⟩ := h.value
  obtain ⟨less, items, rfl, rfl, hitems, rfl⟩ := toJson?_array.mp hvalue
  cases gives_of_toJson? hother with
  | plain hnesting => cases hnesting
  | @array _ others closed _ _ =>
    obtain ⟨_, _, ⟨⟩, rfl, hothers, ⟨⟩⟩ := toJson?_array.mp hother
    exact ⟨less, others, rfl, rfl, rfl,
      forall₂_alike (fun _ ↦ hfirst.item) (fun _ ↦ hsecond.item) hitems hothers⟩

/-! ## Members of alike objects -/

theorem mem_insertSorted_self (name : String) (value : Json) (members : List (String × Json)) :
    (name, value) ∈ insertSorted name value members := by
  induction members with
  | nil => exact List.mem_cons_self
  | cons member rest ih =>
    unfold insertSorted
    split_ifs
    · exact List.mem_cons_self
    · exact List.mem_cons_self
    · exact List.mem_cons_of_mem _ ih

theorem mem_insertSorted_of_mem {name : String} {value : Json} {members : List (String × Json)}
    {member : String × Json} (h : member ∈ members) (hname : member.1 ≠ name) :
    member ∈ insertSorted name value members := by
  induction members with
  | nil => cases h
  | cons other rest ih =>
    unfold insertSorted
    split_ifs with hless hsame
    · exact List.mem_cons_of_mem _ h
    · obtain rfl | hrest := List.mem_cons.mp h
      · exact absurd hsame.symm hname
      · exact List.mem_cons_of_mem _ hrest
    · obtain rfl | hrest := List.mem_cons.mp h
      · exact List.mem_cons_self
      · exact List.mem_cons_of_mem _ (ih hrest)

/-- Sorting loses no member if no name is repeated. -/
theorem mem_sorted {members : List (String × Json)} (h : (members.map (·.1)).Nodup) {member : String × Json}
    (hmember : member ∈ members) : member ∈ sorted members := by
  induction members using List.reverseRecOn with
  | nil => cases hmember
  | append_singleton members last ih =>
    rw [List.map_append, List.nodup_append] at h
    obtain ⟨hmembers, -, hlast⟩ := h
    rw [sorted_concat]
    obtain hbefore | hself := List.mem_append.mp hmember
    · refine mem_insertSorted_of_mem (ih hmembers hbefore) ?_
      exact hlast _ (List.mem_map_of_mem hbefore) _ List.mem_cons_self
    · cases List.mem_singleton.mp hself
      exact mem_insertSorted_self ..

/-- A member whose name is not repeated is the one that is found. -/
theorem lookup_of_mem {γ : Type} {members : List (Option String × γ)} (h : (members.map (·.1)).Nodup)
    {name : Option String} {part : γ} (hmember : (name, part) ∈ members) : members.lookup name = some part := by
  obtain ⟨before, after, rfl⟩ := List.append_of_mem hmember
  refine List.lookup_eq_some_iff.mpr ⟨before, after, rfl, fun other hother ↦ ?_⟩
  rw [List.map_append, List.nodup_append] at h
  exact bne_iff_ne.mpr (h.2.2 other.1 (List.mem_map_of_mem hother) name List.mem_cons_self).symm

theorem mem_of_lookup {γ : Type} {members : List (Option String × γ)} {name : Option String} {part : γ}
    (h : members.lookup name = some part) : (name, part) ∈ members := by
  obtain ⟨before, after, rfl, -⟩ := List.lookup_eq_some_iff.mp h
  exact List.mem_append_right _ List.mem_cons_self

/-- The members of a document and those of its value. -/
abbrev GiveMembers (depth : Nat) (documents : List (Option String × Document)) (members : List (String × Json)) :
    Prop :=
  List.Forall₂ (fun document member ↦ document.1 = some member.1 ∧ toJson? depth document.2 = some member.2)
    documents members

theorem GiveMembers.names_eq {documents : List (Option String × Document)} {members : List (String × Json)}
    (h : GiveMembers depth documents members) : documents.map (·.1) = members.map (some ·.1) := by
  induction h with
  | nil => rfl
  | cons hmember _ ih => rw [List.map_cons, List.map_cons, hmember.1, ih]

theorem GiveMembers.nodup {documents : List (Option String × Document)} {members : List (String × Json)}
    (h : GiveMembers depth documents members) (hnodup : (documents.map (·.1)).Nodup) :
    (members.map (·.1)).Nodup := by
  rw [h.names_eq] at hnodup
  refine List.Nodup.of_map some ?_
  rw [List.map_map]
  exact hnodup

/-- An object has a part like each part of an alike object, under the same name. -/
theorem Alike.exists_lookup {less : Nat} {documents others : List (Option String × Document)}
    {closed otherClosed : Bool} (h : Alike (less + 1) (.object documents closed) (.object others otherClosed))
    {name : Option String} {part : Document} (hpart : documents.lookup name = some part) :
    ∃ other, others.lookup name = some other ∧ Alike less part other := by
  obtain ⟨hfirst, hsecond⟩ := h.unrepeated
  obtain ⟨value, hvalue, hother⟩ := h.value
  obtain ⟨_, members, ⟨⟩, -, hmembers, rfl⟩ := toJson?_object.mp hvalue
  obtain ⟨_, values, ⟨⟩, -, hothers, hsame⟩ := toJson?_object.mp hother
  have hpart := mem_of_lookup hpart
  obtain ⟨⟨given, value⟩, hmember, hname, hvalue⟩ := exists_related hmembers.flip _ hpart
  have hsorted : (given, value) ∈ sorted values := by
    rw [← Json.object.inj hsame]
    exact mem_sorted (GiveMembers.nodup hmembers (hfirst documents closed (.self _))) hmember
  obtain ⟨⟨other, document⟩, hdocument, hotherName, hotherValue⟩ :=
    exists_related hothers _ (mem_of_mem_sorted hsorted)
  cases hname
  cases hotherName
  refine ⟨document, lookup_of_mem (hsecond others otherClosed (.self _)) hdocument, ?_⟩
  exact ⟨⟨hfirst.member hpart, hsecond.member hdocument⟩, value, hvalue, hotherValue⟩

/-- What is like an object is an object with alike parts. -/
theorem Alike.object {documents : List (Option String × Document)} {closed : Bool}
    (h : Alike depth (.object documents closed) second) :
    ∃ less others, depth = less + 1 ∧ closed = true ∧ second = .object others true ∧
      ∀ name, Option.Rel (Alike less) (documents.lookup name) (others.lookup name) := by
  obtain ⟨value, hvalue, hother⟩ := h.value
  obtain ⟨less, members, rfl, rfl, -, rfl⟩ := toJson?_object.mp hvalue
  cases gives_of_toJson? hother with
  | plain hnesting => cases hnesting
  | @object _ others closed _ _ _ =>
    obtain ⟨_, _, -, rfl, -, -⟩ := toJson?_object.mp hother
    refine ⟨less, others, rfl, rfl, rfl, fun name ↦ ?_⟩
    cases hpart : documents.lookup name with
    | some part =>
      obtain ⟨other, hlookup, halike⟩ := h.exists_lookup hpart
      rw [hlookup]
      exact .some halike
    | none =>
      cases hlookup : others.lookup name with
      | none => exact .none
      | some other =>
        obtain ⟨part, hfound, -⟩ := h.symm.exists_lookup hlookup
        rw [hpart] at hfound
        cases hfound

/-- The members of an object that has a value have names, and nothing in them is broken. -/
theorem Alike.members_whole {members : List (Option String × Document)} {closed : Bool}
    (h : Alike depth (.object members closed) second) :
    ∀ member ∈ members, (∃ name, member.1 = some name) ∧ member.2.isWhole = true := by
  obtain ⟨value, hvalue, -⟩ := h.value
  have hordinary : (Document.object members closed).IsOrdinary depth := by rw [IsOrdinary, hvalue]; rfl
  intro member hmember
  obtain ⟨hname, hpart⟩ := ((isOrdinary_object depth members closed).mp hordinary).2.2 member hmember
  exact ⟨Option.isSome_iff_exists.mp hname, hpart.isWhole⟩

end Document

namespace Reader

open Document (Alike)

variable {α β : Type}

/-- A reader gives the same for alike documents, wherever there is room for their containers. -/
structure Extensional (read : Reader α) : Prop where
  read_eq {depth : Nat} {first second : Document} {here there : Position} {value : α}
    (halike : Alike depth first second) (hdepth : depth ≤ there.depth) (h : read here first = .ok value) :
    read there second = .ok value

/-! ## Plain values and lists -/

theorem extensional_string : Extensional string where
  read_eq {depth first second here there value} halike _ h := by
    cases first with
    | string text =>
      cases text with
      | none => cases h
      | some text => exact halike.eq_ofJson (.string text) rfl ▸ h
    | _ => cases h

theorem extensional_bool : Extensional bool where
  read_eq {depth first second here there value} halike _ h := by
    cases first with
    | bool given => exact halike.eq_ofJson (.bool given) rfl ▸ h
    | _ => cases h

theorem extensional_uint32 : Extensional uint32 where
  read_eq {depth first second here there value} halike _ h := by
    cases first with
    | integer given => exact halike.eq_ofJson (.integer given) rfl ▸ h
    | _ => cases h

theorem Extensional.optional {read : Reader α} (hread : Extensional read) : Extensional (optional read) where
  read_eq {depth first second here there value} halike hdepth h := by
    unfold Reader.optional at h
    split at h
    · cases h
      cases halike.eq_ofJson .null rfl
      rfl
    · rename_i hnull
      cases hvalue : read here first with
      | error error => simp [hvalue, Except.map] at h
      | ok given =>
        have hother : second ≠ .null := by
          rintro rfl
          exact hnull (halike.symm.eq_ofJson .null rfl)
        have hread := hread.read_eq halike hdepth hvalue
        unfold Reader.optional
        split
        · exact absurd rfl hother
        · rwa [hread, ← hvalue]

theorem Extensional.items {read : Reader α} (hread : Extensional read) {depth : Nat} {here there : Position}
    (hdepth : depth ≤ there.depth) {documents others : List Document}
    (halike : List.Forall₂ (Alike depth) documents others) {values : List α}
    (h : items read here documents = .ok values) : items read there others = .ok values := by
  induction halike generalizing values with
  | nil => exact h
  | @cons document other documents others hfirst _ ih =>
    rw [Reader.items] at h ⊢
    cases hvalue : read here document with
    | error error => simp [hvalue] at h
    | ok value =>
      cases hrest : Reader.items read here documents with
      | error error => simp [hvalue, hrest, Except.map] at h
      | ok rest =>
        rw [hread.read_eq hfirst hdepth hvalue, ih hrest]
        rwa [hvalue, hrest] at h

theorem Extensional.list {read : Reader α} (hread : Extensional read) : Extensional (list read) where
  read_eq {depth first second here there values} halike hdepth h := by
    cases first with
    | array documents closed =>
      obtain ⟨less, others, rfl, rfl, rfl, hitems⟩ := halike.array
      obtain ⟨inside, henter, hinside⟩ := enter_of_lt hdepth
      simp only [Reader.list] at h ⊢
      cases hhere : here.enter with
      | error error => simp [hhere] at h
      | ok within =>
        cases hvalues : Reader.items read within documents with
        | error error => simp [hhere, hvalues] at h
        | ok given =>
          simp only [hhere, hvalues, if_true] at h
          simp only [henter, hread.items hinside hitems hvalues, if_true]
          exact h
    | _ => cases h

/-! ## Records -/

namespace Fields

/-- Fields of these names with extensional readers, of which none has been found yet. -/
inductive AllExtensional : {α : Type} → Fields α → List String → Prop where
  | done {α : Type} (build : α) : AllExtensional (.done build) []
  | field {α β : Type} {name : String} {read : Reader β} {absent : Option β} {rest : Fields (β → α)}
      {names : List String} (hread : Extensional read) (hrest : AllExtensional rest names) :
      AllExtensional (.field name read absent none rest) (name :: names)

variable {fields : Fields α} {names : List String} {value : α} {inside : Position}

theorem AllExtensional.awaits (h : fields.AllExtensional names) : fields.Awaits names := by
  induction h with
  | done => exact .done _
  | field _ _ ih => exact .field ih

/-- The parts of alike documents give a record the same. -/
theorem AllExtensional.built (h : fields.AllExtensional names) {depth : Nat} {here there : Position}
    (hdepth : depth ≤ there.depth) {part other : String → Option Document}
    (hsame : ∀ name, Option.Rel (Alike depth) (part name) (other name)) (hbuilt : fields.Built here part value) :
    fields.Built there other value := by
  induction h with
  | done =>
    cases hbuilt
    exact .done _
  | @field _ _ name read absent rest names hread _ ih =>
    cases hbuilt with
    | @field _ _ _ _ _ _ given build hvalue hrest =>
      refine .field ?_ (ih hrest)
      have hname := hsame name
      cases hpart : part name with
      | none =>
        rw [hpart] at hname hvalue
        cases hother : other name with
        | none => exact hvalue
        | some document =>
          rw [hother] at hname
          cases hname
      | some document =>
        rw [hpart] at hname hvalue
        cases hother : other name with
        | none =>
          rw [hother] at hname
          cases hname
        | some found =>
          rw [hother] at hname
          cases hname with
          | some halike => exact hread.read_eq halike hdepth hvalue

/-- Where every name is met once, a record takes the members that it is built from. -/
theorem Built.putAll_eq (hawaits : fields.Awaits names) (hnames : names.Nodup)
    {documents : List (Option String × Document)} (hnodup : (documents.map (·.1)).Nodup)
    (hwhole : ∀ member ∈ documents, (∃ name, member.1 = some name) ∧ member.2.isWhole = true)
    (h : fields.Built inside (fun name ↦ documents.lookup (some name)) value) :
    ∃ taken, fields.putAll inside documents = .ok taken ∧ taken.finish = .ok value := by
  -- The member of a field is taken out, and the fields behind it are built from the others.
  induction hawaits generalizing documents with
  | done build =>
    cases h
    exact ⟨.done build, putAll_done build hwhole, rfl⟩
  | @field _ _ name read absent rest names hrest ih =>
    obtain ⟨hname, hnames⟩ := List.nodup_cons.mp hnames
    cases h with
    | @field _ _ _ _ _ _ given build hvalue hbuild =>
      cases hpart : documents.lookup (some name) with
      | none =>
        rw [hpart] at hvalue
        obtain ⟨taken, hput, hfinish⟩ := ih hnames hnodup hwhole hbuild
        have hothers : ∀ member ∈ documents, member.1 ≠ some name := fun member hmember hsame ↦
          (bne_iff_ne.mp (List.lookup_eq_none_iff.mp hpart member hmember)) hsame.symm
        refine ⟨_, putAll_field read absent none hothers hput, ?_⟩
        simp only [finish, Option.none_or, show absent = some given from hvalue, hfinish, Except.map]
      | some part =>
        rw [hpart] at hvalue
        obtain ⟨before, after, rfl, hdifferent⟩ := List.lookup_eq_some_iff.mp hpart
        have hbefore : ∀ member ∈ before, member.1 ≠ some name := fun member hmember hsame ↦
          bne_iff_ne.mp (hdifferent member hmember) hsame.symm
        rw [List.map_append, List.map_cons, List.nodup_middle, List.nodup_cons, ← List.map_append] at hnodup
        obtain ⟨hself, hnodup⟩ := hnodup
        have hafter : ∀ member ∈ after, member.1 ≠ some name := by
          rintro ⟨_, other⟩ hmember rfl
          exact hself (List.mem_map.mpr ⟨_, List.mem_append_right before hmember, rfl⟩)
        have hbuild : rest.Built inside (fun other ↦ (before ++ after).lookup (some other)) build := by
          refine hbuild.congr hrest fun other hother ↦ ?_
          have hdifferent : (some other == some name) = false := by
            simpa using fun hsame : other = name ↦ hname (hsame ▸ hother)
          rw [List.lookup_append, List.lookup_append, List.lookup_cons, hdifferent]
        have hwhole : ∀ member ∈ before ++ after, (∃ name, member.1 = some name) ∧ member.2.isWhole = true := by
          intro member hmember
          exact hwhole member ((List.sublist_cons_self _ _).append_left before |>.subset hmember)
        obtain ⟨taken, hput, hfinish⟩ := ih hnames hnodup hwhole hbuild
        refine ⟨_, putAll_insert hvalue hbefore hafter hput, ?_⟩
        simp only [finish, Option.some_or, hfinish, Except.map]

/-- Alike items give a record the same, and as many are left over. -/
theorem AllExtensional.ofItems_eq (h : fields.AllExtensional names) {depth : Nat} {here there : Position}
    (hdepth : depth ≤ there.depth) {documents others left : List Document}
    (halike : List.Forall₂ (Alike depth) documents others)
    (hitems : fields.ofItems here documents = .ok (value, left)) :
    ∃ kept, fields.ofItems there others = .ok (value, kept) ∧ kept.isEmpty = left.isEmpty := by
  induction h generalizing documents others left with
  | done build =>
    cases hitems
    refine ⟨others, rfl, ?_⟩
    cases halike <;> rfl
  | @field _ _ name read absent rest names hread _ ih =>
    cases halike with
    | nil =>
      cases absent with
      | none => cases hitems
      | some given =>
        rw [ofItems] at hitems
        cases hbuilt : rest.ofItems here [] with
        | error error => simp [hbuilt, Except.map] at hitems
        | ok built =>
          obtain ⟨build, unread⟩ := built
          simp only [hbuilt, Except.map, Except.ok.injEq, Prod.mk.injEq] at hitems
          obtain ⟨rfl, rfl⟩ := hitems
          obtain ⟨kept, hkept, hempty⟩ := ih .nil hbuilt
          refine ⟨kept, ?_, hempty⟩
          simp only [ofItems, hkept, Except.map]
    | @cons document other documents others hfirst hothers =>
      rw [ofItems] at hitems
      cases hgiven : read here document with
      | error error => simp [hgiven] at hitems
      | ok given =>
        simp only [hgiven] at hitems
        cases hbuilt : rest.ofItems here documents with
        | error error => simp [hbuilt, Except.map] at hitems
        | ok built =>
          obtain ⟨build, unread⟩ := built
          simp only [hbuilt, Except.map, Except.ok.injEq, Prod.mk.injEq] at hitems
          obtain ⟨rfl, rfl⟩ := hitems
          obtain ⟨kept, hkept, hempty⟩ := ih hothers hbuilt
          refine ⟨kept, ?_, hempty⟩
          simp only [ofItems, hread.read_eq hfirst hdepth hgiven, hkept, Except.map]

end Fields

/-- A record takes the same from alike objects, whatever the order of their members. -/
theorem extensional_record {fields : Fields α} {names : List String} (h : fields.AllExtensional names)
    (hnames : names.Nodup) : Extensional (record fields) where
  read_eq {depth first second here there value} halike hdepth hread := by
    cases first with
    | object documents closed =>
      obtain ⟨less, others, rfl, rfl, rfl, hparts⟩ := halike.object
      obtain ⟨within, -, hbuilt⟩ := built_of_record h.awaits hnames hread
      obtain ⟨inside, henter, hinside⟩ := enter_of_lt hdepth
      obtain ⟨taken, hput, hfinish⟩ := Fields.Built.putAll_eq h.awaits hnames
        (halike.unrepeated.2 others true (.self _)) halike.symm.members_whole
        (h.built hinside (fun name ↦ hparts (some name)) hbuilt)
      simp only [record, henter, hput, hfinish, if_true]
    | array documents closed =>
      obtain ⟨less, others, rfl, rfl, rfl, hitems⟩ := halike.array
      obtain ⟨inside, henter, hinside⟩ := enter_of_lt hdepth
      simp only [record] at hread ⊢
      cases hhere : here.enter with
      | error error => simp [hhere] at hread
      | ok within =>
        cases hbuilt : fields.ofItems within documents with
        | error error => simp [hhere, hbuilt] at hread
        | ok built =>
          obtain ⟨given, left⟩ := built
          obtain ⟨kept, hkept, hempty⟩ := h.ofItems_eq hinside hitems hbuilt
          simp only [hhere, hbuilt] at hread
          simp only [henter, hkept, hempty]
          exact hread
    | _ => cases hread

end Reader

end ContainerConstruction.Json
