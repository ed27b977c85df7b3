import ContainerConstruction.Proofs.Json.Layout
import ContainerConstruction.Proofs.Json.Recovers
import Mathlib.Data.List.Nodup
import Mathlib.Data.List.Perm.Basic

/-!
# Readers that conform to a layout

A reader conforms to a layout if it gives back a value from every document that stands for the written value,
and refuses every document that repeats a member.  Conformity is established from the plain values upwards:
lists, records by induction on their fields, and tagged values.
-/

namespace ContainerConstruction.Json.Reader

variable {α β : Type}

/-- A reader conforms to a layout, wherever at least `least` containers may still be opened. -/
structure Conforms (read : Reader α) (layout : Layout) (write : α → Json) (least : Nat) : Prop where
  exact (value : α) : (write value).IsExact
  /-- A written value stands for itself. -/
  self (value : α) {depth : Nat} (hdepth : least ≤ depth) :
    Rewrites layout depth (write value) (Document.ofJson (write value))
  ordinary (value : α) {depth : Nat} {document : Document} (hdepth : least ≤ depth)
    (h : Rewrites layout depth (write value) document) : document.IsOrdinary depth
  read_eq (value : α) {depth : Nat} {document : Document} {position : Position} (hdepth : least ≤ depth)
    (hposition : depth ≤ position.depth) (h : Rewrites layout depth (write value) document) :
    read position document = .ok value
  unrepeated {position : Position} {document : Document} {value : α} (h : read position document = .ok value) :
    ¬Repeats layout document

namespace Conforms

variable {read : Reader α} {layout : Layout} {write : α → Json} {least : Nat}

theorem recovers (h : Conforms read layout write least) : Recovers read write least where
  exact := h.exact
  read_eq value _ hdepth := h.read_eq value (Nat.le_refl least) hdepth (h.self value (Nat.le_refl least))

/-- Values that are written in the same way are the same. -/
theorem injective (h : Conforms read layout write least) {first second : α}
    (hwrite : write first = write second) : first = second := by
  have hread (value : α) : read ⟨least, false⟩ (Document.ofJson (write value)) = .ok value :=
    h.recovers.read_eq value (Nat.le_refl least)
  have hfirst := hread first
  rw [hwrite, hread second] at hfirst
  exact (Except.ok.inj hfirst).symm

theorem mono (h : Conforms read layout write least) {more : Nat} (hmore : least ≤ more) :
    Conforms read layout write more where
  exact := h.exact
  self value _ hdepth := h.self value (Nat.le_trans hmore hdepth)
  ordinary value _ _ hdepth := h.ordinary value (Nat.le_trans hmore hdepth)
  read_eq value _ _ _ hdepth := h.read_eq value (Nat.le_trans hmore hdepth)
  unrepeated := h.unrepeated

end Conforms

/-! ## Values that are written in one way -/

/-- What is read back as it was written conforms to the layout that leaves no freedom. -/
theorem Recovers.conforms {read : Reader α} {write : α → Json} {least : Nat} (h : Recovers read write least)
    (hordinary : ∀ value, (Document.ofJson (write value)).IsOrdinary least) :
    Conforms read .fixed write least where
  exact := h.exact
  self value _ _ := .fixed (write value)
  ordinary value _ _ hdepth hrewrites := by
    cases hrewrites
    exact (hordinary value).mono hdepth
  read_eq value _ _ _ hdepth hposition hrewrites := by
    cases hrewrites
    exact h.read_eq value (Nat.le_trans hdepth hposition)
  unrepeated _ := nofun

theorem conforms_string : Conforms string .fixed Json.string 0 := recovers_string.conforms fun _ ↦ rfl

theorem conforms_bool : Conforms bool .fixed Json.bool 0 := recovers_bool.conforms fun _ ↦ rfl

theorem conforms_uint32 : Conforms uint32 .fixed (fun value ↦ .nat value.toNat) 0 :=
  recovers_uint32.conforms fun _ ↦ rfl

theorem conforms_uint64 : Conforms uint64 .fixed (fun value ↦ .nat value.toNat) 0 :=
  recovers_uint64.conforms fun _ ↦ rfl

theorem conforms_int32 : Conforms int32 .fixed (fun value ↦ .integer value.toInt) 0 :=
  recovers_int32.conforms fun _ ↦ rfl

theorem ofItems_eq (items : List Json) : Document.ofItems items = items.map Document.ofJson := by
  induction items with
  | nil => rfl
  | cons item rest ih => rw [Document.ofItems, ih, List.map_cons]

theorem Recovers.conforms_list {read : Reader α} {write : α → Json} (h : Recovers read write 0)
    (hordinary : ∀ value, (Document.ofJson (write value)).IsOrdinary 0) :
    Conforms (Reader.list read) .fixed (fun values ↦ .array (values.map write)) 1 := by
  refine h.list.conforms fun values ↦ ?_
  rw [Document.ofJson, Document.isOrdinary_array, ofItems_eq]
  refine ⟨Nat.one_ne_zero, rfl, fun item hitem ↦ ?_⟩
  obtain ⟨_, hjson, rfl⟩ := List.mem_map.mp hitem
  obtain ⟨value, -, rfl⟩ := List.mem_map.mp hjson
  exact hordinary value

theorem conforms_choice {names : List (String × α)} {name : α → String}
    (h : ∀ value, names.find? (·.1 = name value) = some (name value, value)) :
    Conforms (choice names) .fixed (fun value ↦ .string (name value)) 0 := by
  have hrecovers : Recovers (choice names) (fun value ↦ .string (name value)) 0 := {
    exact := fun _ ↦ trivial
    read_eq := fun value position _ ↦ choice_eq (h value) position }
  exact hrecovers.conforms fun _ ↦ rfl

/-! ## Records -/

/-- An item of a reordered list stands somewhere between the others. -/
theorem exists_insert {γ : Type} {item : γ} {others items : List γ} (h : items.Perm (item :: others)) :
    ∃ before after, items = before ++ item :: after ∧ (before ++ after).Perm others := by
  obtain ⟨before, after, rfl⟩ := List.append_of_mem (h.mem_iff.mpr List.mem_cons_self)
  exact ⟨before, after, rfl, (List.perm_middle.symm.trans h).cons_inv⟩

namespace Fields

/-- The members that a record is written with, in declared order, and what its layout says of them.  A member
that has a default may not have been written. -/
inductive Writes (least : Nat) : {α : Type} → Fields α → List (String × Layout × Option Json) →
    List (String × Json) → α → Prop where
  | done {α : Type} (build : α) : Writes least (.done build) [] [] build
  | field {α β : Type} {name : String} {read : Reader β} {layout : Layout} {write : β → Json}
      {absent : Option β} {rest : Fields (β → α)} {members : List (String × Layout × Option Json)}
      {values : List (String × Json)} {value : β} {build : β → α} (hread : Conforms read layout write least)
      (hrest : Writes least rest members values build) :
      Writes least (.field name read absent none rest) ((name, layout, absent.map write) :: members)
        ((name, write value) :: values) (build value)
  | absent {α β : Type} {name : String} {read : Reader β} {layout : Layout} {write : β → Json}
      {value : β} {rest : Fields (β → α)} {members : List (String × Layout × Option Json)}
      {values : List (String × Json)} {build : β → α} (hread : Conforms read layout write least)
      (hrest : Writes least rest members values build) :
      Writes least (.field name read (some value) none rest) ((name, layout, some (write value)) :: members)
        values (build value)

variable {least : Nat} {fields : Fields α} {members : List (String × Layout × Option Json)}
  {values : List (String × Json)} {value : α} {inside : Position}

theorem Writes.exact (h : Writes least fields members values value) : membersExact values := by
  induction h with
  | done => trivial
  | field hread _ ih => exact ⟨hread.exact _, ih⟩
  | absent _ _ ih => exact ih

/-- Only members of the layout are written. -/
theorem Writes.name_mem (h : Writes least fields members values value) :
    ∀ member ∈ values, member.1 ∈ members.map (·.1) := by
  induction h with
  | done => exact List.forall_mem_nil _
  | field _ _ ih =>
    exact List.forall_mem_cons.mpr ⟨List.mem_cons_self, fun member hmember ↦
      List.mem_cons_of_mem _ (ih member hmember)⟩
  | absent _ _ ih => exact fun member hmember ↦ List.mem_cons_of_mem _ (ih member hmember)

/-- The written members stand for themselves, in a layout that has at least these members. -/
theorem Writes.self (h : Writes least fields members values value)
    {all : List (String × Layout × Option Json)} (hall : members ⊆ all) {depth : Nat} (hdepth : least ≤ depth) :
    RewritesMembers all depth values (Document.ofMembers values) := by
  induction h with
  | done => exact .nil
  | field hread _ ih =>
    exact .kept (hall List.mem_cons_self) (hread.self _ hdepth) (ih (List.subset_of_cons_subset hall))
  | absent _ _ ih => exact ih (List.subset_of_cons_subset hall)

/-! ### Reading a record -/

/-- Members of other names pass a field by. -/
theorem putAll_field {name : String} (read : Reader β) (absent found : Option β)
    {documents : List (Option String × Document)} (hname : ∀ member ∈ documents, member.1 ≠ some name)
    {rest taken : Fields (β → α)} (h : rest.putAll inside documents = .ok taken) :
    (Fields.field name read absent found rest).putAll inside documents =
      .ok (.field name read absent found taken) := by
  induction documents generalizing rest with
  | nil =>
    cases h
    rfl
  | cons member others ih =>
    obtain ⟨_ | other, document⟩ := member
    · cases h
    · have hother : other ≠ name := fun hsame ↦ hname _ List.mem_cons_self (congrArg some hsame)
      rw [putAll] at h ⊢
      simp only [put, hother, if_false]
      cases hput : put inside other document rest with
      | error error => simp [hput] at h
      | ok next =>
        rw [hput] at h
        exact ih (fun member hmember ↦ hname member (List.mem_cons_of_mem _ hmember)) h

/-- A field takes the one member of its name, wherever it stands. -/
theorem putAll_insert {name : String} {read : Reader β} {absent : Option β} {document : Document} {value : β}
    (hread : read inside document = .ok value) {before after : List (Option String × Document)}
    (hbefore : ∀ member ∈ before, member.1 ≠ some name) (hafter : ∀ member ∈ after, member.1 ≠ some name)
    {rest taken : Fields (β → α)} (h : rest.putAll inside (before ++ after) = .ok taken) :
    (Fields.field name read absent none rest).putAll inside (before ++ (some name, document) :: after) =
      .ok (.field name read absent (some value) taken) := by
  induction before generalizing rest with
  | nil =>
    rw [List.nil_append, putAll]
    simp only [put, if_true, hread]
    exact putAll_field read absent (some value) hafter h
  | cons member others ih =>
    obtain ⟨_ | other, document⟩ := member
    · cases h
    · have hother : other ≠ name := fun hsame ↦ hbefore _ List.mem_cons_self (congrArg some hsame)
      rw [List.cons_append, putAll] at h ⊢
      simp only [put, hother, if_false]
      cases hput : put inside other document rest with
      | error error => simp [hput] at h
      | ok next =>
        rw [hput] at h
        exact ih (fun member hmember ↦ hbefore member (List.mem_cons_of_mem _ hmember)) h

/-- Where no field is left, surplus members are passed over. -/
theorem putAll_done (build : α) {documents : List (Option String × Document)}
    (h : ∀ member ∈ documents, (∃ name, member.1 = some name) ∧ member.2.isWhole = true) :
    (Fields.done build).putAll inside documents = .ok (.done build) := by
  induction documents with
  | nil => rfl
  | cons member others ih =>
    obtain ⟨⟨⟨name, hname⟩, hwhole⟩, hothers⟩ := List.forall_mem_cons.mp h
    obtain ⟨_, document⟩ := member
    cases hname
    rw [putAll]
    simp only [put, if_pos hwhole]
    exact ih hothers

/-- Neither the members of the fields behind a field nor the surplus have its name. -/
theorem name_ne_of_perm {name : String} {layout : Layout} {default : Option Json}
    {all members : List (String × Layout × Option Json)} (hnodup : (all.map (·.1)).Nodup)
    (hall : ((name, layout, default) :: members).Sublist all) {values : List (String × Json)}
    (hnames : ∀ written ∈ values, written.1 ∈ members.map (·.1)) {depth : Nat}
    {kept surplus documents : List (Option String × Document)} (hkept : RewritesMembers all depth values kept)
    (hsurplus : Surplus (all.map (·.1)) depth surplus) (hperm : documents.Perm (kept ++ surplus)) :
    ∀ member ∈ documents, member.1 ≠ some name := by
  intro member hmember hname
  have hself := (List.nodup_cons.mp (hnodup.sublist (hall.map (·.1)))).1
  have hknown : name ∈ all.map (·.1) := List.mem_map_of_mem (hall.subset List.mem_cons_self)
  obtain hmember | hmember := List.mem_append.mp (hperm.mem_iff.mp hmember)
  · obtain ⟨written, hwritten, hsame⟩ := hkept.exists_written member hmember
    rw [hname] at hsame
    exact hself (Option.some.inj hsame ▸ hnames written hwritten)
  · obtain ⟨other, hsame, hunknown, -⟩ := hsurplus member hmember
    rw [hname] at hsame
    exact hunknown (Option.some.inj hsame ▸ hknown)

/-- By induction on the fields: each takes the member of its name and is passed by all others. -/
theorem Writes.putAll_eq (h : Writes least fields members values value)
    {all : List (String × Layout × Option Json)} (hall : members.Sublist all)
    (hnodup : (all.map (·.1)).Nodup) {depth : Nat} (hdepth : least ≤ depth) (hinside : depth ≤ inside.depth)
    {kept surplus documents : List (Option String × Document)}
    (hkept : RewritesMembers all depth values kept) (hsurplus : Surplus (all.map (·.1)) depth surplus)
    (hperm : documents.Perm (kept ++ surplus)) :
    ∃ taken, fields.putAll inside documents = .ok taken ∧ taken.finish = .ok value := by
  induction h generalizing kept documents with
  | done build =>
    cases hkept
    refine ⟨.done build, putAll_done build fun member hmember ↦ ?_, rfl⟩
    obtain ⟨name, hname, -, hordinary⟩ := hsurplus member (hperm.mem_iff.mp hmember)
    exact ⟨⟨name, hname⟩, hordinary.isWhole⟩
  | @field _ _ name read layout write absent rest members values value build hread hrest ih =>
    have hrestAll := (List.sublist_cons_self _ _).trans hall
    have hown := hall.subset List.mem_cons_self
    cases hkept with
    | @kept _ _ _ layout' _ _ document _ kept hmember hvalue hkept =>
      obtain ⟨before, after, rfl, hothers⟩ := exists_insert hperm
      obtain ⟨taken, hput, hfinish⟩ := ih hrestAll hkept hothers
      have hstrange := name_ne_of_perm hnodup hall hrest.name_mem hkept hsurplus hothers
      have hsame := List.inj_on_of_nodup_map hnodup hmember hown rfl
      cases hsame
      have hread' := hread.read_eq value hdepth hinside hvalue
      refine ⟨_, putAll_insert hread' (fun member hbefore ↦ ?_) (fun member hafter ↦ ?_) hput, ?_⟩
      · exact hstrange member (List.mem_append_left _ hbefore)
      · exact hstrange member (List.mem_append_right _ hafter)
      · simp [finish, hfinish, Except.map]
    | leftOut hmember hkept =>
      obtain ⟨taken, hput, hfinish⟩ := ih hrestAll hkept hperm
      have hsame := List.inj_on_of_nodup_map hnodup hown hmember rfl
      obtain ⟨default, rfl, hwrite⟩ := Option.map_eq_some_iff.mp (congrArg (·.2.2) hsame)
      cases hread.injective hwrite
      have hstrange := name_ne_of_perm hnodup hall hrest.name_mem hkept hsurplus hperm
      refine ⟨_, putAll_field _ _ _ hstrange hput, ?_⟩
      simp [finish, hfinish, Except.map]
  | @absent _ _ name read layout write value rest members values build hread hrest ih =>
    obtain ⟨taken, hput, hfinish⟩ := ih ((List.sublist_cons_self _ _).trans hall) hkept hperm
    have hstrange := name_ne_of_perm hnodup hall hrest.name_mem hkept hsurplus hperm
    refine ⟨_, putAll_field _ _ _ hstrange hput, ?_⟩
    simp [finish, hfinish, Except.map]

/-- The documents of a record are ordinary. -/
theorem Writes.ordinary (h : Writes least fields members values value)
    {all : List (String × Layout × Option Json)} (hall : members.Sublist all)
    (hnodup : (all.map (·.1)).Nodup) {depth : Nat} (hdepth : least ≤ depth)
    {kept : List (Option String × Document)} (hkept : RewritesMembers all depth values kept) :
    ∀ member ∈ kept, member.1.isSome = true ∧ member.2.IsOrdinary depth := by
  induction h generalizing kept with
  | done =>
    cases hkept
    exact List.forall_mem_nil _
  | field hread _ ih =>
    have hrestAll := (List.sublist_cons_self _ _).trans hall
    have hown := hall.subset List.mem_cons_self
    cases hkept with
    | kept hmember hvalue hkept =>
      have hsame := List.inj_on_of_nodup_map hnodup hmember hown rfl
      cases hsame
      exact List.forall_mem_cons.mpr ⟨⟨rfl, hread.ordinary _ hdepth hvalue⟩, ih hrestAll hkept⟩
    | leftOut _ hkept => exact ih hrestAll hkept
  | absent _ _ ih => exact ih ((List.sublist_cons_self _ _).trans hall) hkept

/-! ### What a read record says of its document -/

/-- A field has taken at most one member, and the others have gone to the fields behind it. -/
theorem putAll_field_inv {name : String} {read : Reader β} {absent found : Option β} {rest : Fields (β → α)}
    {documents : List (Option String × Document)} {taken : Fields α}
    (h : (Fields.field name read absent found rest).putAll inside documents = .ok taken) :
    documents.countP (·.1 = some name) + found.toList.length ≤ 1 ∧
      (∀ document, (some name, document) ∈ documents → ∃ value, read inside document = .ok value) ∧
      ∃ next, rest.putAll inside (documents.filter (·.1 ≠ some name)) = .ok next := by
  induction documents generalizing found rest with
  | nil => cases found <;> exact ⟨by simp, nofun, rest, rfl⟩
  | cons member others ih =>
    obtain ⟨_ | other, document⟩ := member
    · cases h
    · rw [putAll] at h
      by_cases hname : other = name
      · subst hname
        simp only [put, if_true] at h
        cases found with
        | some value => cases h
        | none =>
          cases hread : read inside document with
          | error error => simp [hread] at h
          | ok value =>
            simp only [hread] at h
            obtain ⟨hcount, hreads, next, hnext⟩ := ih h
            refine ⟨?_, fun other hother ↦ ?_, next, ?_⟩
            · simpa using hcount
            · obtain hother | hother := List.mem_cons.mp hother
              · cases hother
                exact ⟨value, hread⟩
              · exact hreads other hother
            · simpa using hnext
      · simp only [put, if_neg hname] at h
        cases hput : put inside other document rest with
        | error error => simp [hput] at h
        | ok next =>
          simp only [hput] at h
          obtain ⟨hcount, hreads, last, hlast⟩ := ih h
          refine ⟨?_, fun own hown ↦ ?_, last, ?_⟩
          · simpa [hname] using hcount
          · obtain hown | hown := List.mem_cons.mp hown
            · cases hown
              exact absurd rfl hname
            · exact hreads own hown
          · simpa [hname, putAll, hput] using hlast

/-- The readers of fields conform to the layout of their members. -/
inductive LaidOut : {α : Type} → Fields α → List (String × Layout × Option Json) → Prop where
  | done {α : Type} (build : α) : LaidOut (.done build) []
  | field {α β : Type} {name : String} {read : Reader β} {layout : Layout} {write : β → Json} {least : Nat}
      {absent : Option β} {default : Option Json} {rest : Fields (β → α)}
      {members : List (String × Layout × Option Json)} (hread : Conforms read layout write least)
      (hrest : LaidOut rest members) :
      LaidOut (.field name read absent none rest) ((name, layout, default) :: members)

theorem Writes.laidOut (h : Writes least fields members values value) : LaidOut fields members := by
  induction h with
  | done build => exact .done build
  | field hread _ ih => exact .field hread ih
  | absent hread _ ih => exact .field hread ih

/-- By induction on the fields: a record that is read has no member twice, and its members do not repeat
anything inside. -/
theorem LaidOut.unrepeated (h : LaidOut fields members) (hnodup : (members.map (·.1)).Nodup)
    {documents : List (Option String × Document)} {taken : Fields α}
    (hput : fields.putAll inside documents = .ok taken) :
    ∀ member ∈ members, ¬Twice member.1 documents ∧
      ∀ document, (some member.1, document) ∈ documents → ¬Repeats member.2.1 document := by
  induction h generalizing documents with
  | done => exact List.forall_mem_nil _
  | @field _ _ name _ _ _ _ _ _ _ _ hread _ ih =>
    obtain ⟨hself, hnodup⟩ := List.nodup_cons.mp hnodup
    obtain ⟨hcount, hreads, next, hnext⟩ := putAll_field_inv hput
    refine List.forall_mem_cons.mpr ⟨⟨Nat.not_lt.mpr hcount, fun document hdocument ↦ ?_⟩,
      fun member hmember ↦ ?_⟩
    · obtain ⟨value, hvalue⟩ := hreads document hdocument
      exact hread.unrepeated hvalue
    · have hname : member.1 ≠ name := fun hsame ↦ hself (hsame ▸ List.mem_map.mpr ⟨member, hmember, rfl⟩)
      obtain ⟨htwice, hinside⟩ := ih hnodup hnext member hmember
      refine ⟨fun hdocuments ↦ htwice ((twice_filter hname documents).mpr hdocuments),
        fun document hdocument ↦ hinside document ?_⟩
      exact List.mem_filter.mpr ⟨hdocument, by simpa using hname⟩

/-- The same for a record that is written as an array. -/
theorem LaidOut.unrepeated_items (h : LaidOut fields members) {documents left : List Document} {given : α}
    (hitems : fields.ofItems inside documents = .ok (given, left)) {index : Nat} {name : String}
    {layout : Layout} {default : Option Json} {document : Document}
    (hmember : members[index]? = some (name, layout, default)) (hdocument : documents[index]? = some document) :
    ¬Repeats layout document := by
  induction h generalizing documents left index with
  | done => cases hmember
  | @field _ _ _ read _ _ _ _ _ rest _ hread _ ih =>
    cases documents with
    | nil => cases hdocument
    | cons first others =>
      rw [ofItems] at hitems
      cases hfirst : read inside first with
      | error error => simp [hfirst] at hitems
      | ok value =>
        cases hothers : rest.ofItems inside others with
        | error error => simp [hfirst, hothers, Except.map] at hitems
        | ok rested =>
          cases index with
          | zero =>
            cases hmember
            cases hdocument
            exact hread.unrepeated hfirst
          | succ index => exact ih hothers hmember hdocument

end Fields

theorem putAll_of_record {fields : Fields α} {position : Position} {value : α}
    {documents : List (Option String × Document)} {closed : Bool}
    (h : record fields position (.object documents closed) = .ok value) :
    ∃ inside taken, fields.putAll inside documents = .ok taken := by
  simp only [record] at h
  cases henter : position.enter with
  | error error => simp [henter] at h
  | ok inside =>
    cases hput : fields.putAll inside documents with
    | error error => simp [henter, hput] at h
    | ok taken => exact ⟨inside, taken, hput⟩

theorem ofItems_of_record {fields : Fields α} {position : Position} {value : α} {documents : List Document}
    {closed : Bool} (h : record fields position (.array documents closed) = .ok value) :
    ∃ inside result, fields.ofItems inside documents = .ok result := by
  simp only [record] at h
  cases henter : position.enter with
  | error error => simp [henter] at h
  | ok inside =>
    cases hitems : fields.ofItems inside documents with
    | error error => simp [henter, hitems] at h
    | ok result => exact ⟨inside, result, hitems⟩

/-- A record conforms to the layout of its members, if no two of them have the same name. -/
theorem conforms_record {fields : Fields α} {members : List (String × Layout × Option Json)}
    {write : α → List (String × Json)} {least : Nat} (hnodup : (members.map (·.1)).Nodup)
    (h : ∀ value, fields.Writes least members (write value) value) :
    Conforms (record fields) (.record members) (fun value ↦ .object (write value)) (least + 1) where
  exact value := (h value).exact
  self value depth hdepth := by
    obtain ⟨depth, rfl⟩ : ∃ less, depth = less + 1 := ⟨depth - 1, by omega⟩
    have hkept := (h value).self (List.Subset.refl members) (Nat.le_of_succ_le_succ hdepth)
    have hperm : (Document.ofMembers (write value)).Perm (Document.ofMembers (write value) ++ []) := by
      rw [List.append_nil]
    exact .record hkept (List.forall_mem_nil _) hperm
  ordinary value depth document hdepth hrewrites := by
    obtain ⟨⟩ | ⟨hkept, hsurplus, hperm⟩ := hrewrites
    have hordinary := (h value).ordinary (List.Sublist.refl _) hnodup (Nat.le_of_succ_le_succ hdepth) hkept
    exact Document.isOrdinary_of_perm hperm (List.forall_mem_append.mpr ⟨hordinary, hsurplus.ordinary⟩)
  read_eq value depth document position hdepth hposition hrewrites := by
    obtain ⟨⟩ | ⟨hkept, hsurplus, hperm⟩ := hrewrites
    obtain ⟨inside, henter, hinside⟩ := enter_of_lt hposition
    obtain ⟨taken, hput, hfinish⟩ := (h value).putAll_eq (List.Sublist.refl _) hnodup
      (Nat.le_of_succ_le_succ hdepth) hinside hkept hsurplus hperm
    simp only [record, henter, hput, hfinish, if_true]
  unrepeated {position document value} hread hrepeats := by
    have hlaidOut := (h value).laidOut
    cases hrepeats with
    | member hmember htwice =>
      obtain ⟨inside, taken, hput⟩ := putAll_of_record hread
      exact (hlaidOut.unrepeated hnodup hput _ hmember).1 htwice
    | inMember hmember hdocument hrepeats =>
      obtain ⟨inside, taken, hput⟩ := putAll_of_record hread
      exact (hlaidOut.unrepeated hnodup hput _ hmember).2 _ hdocument hrepeats
    | inItem hmember hdocument hrepeats =>
      obtain ⟨inside, result, hitems⟩ := ofItems_of_record hread
      exact hlaidOut.unrepeated_items hitems hmember hdocument hrepeats

end ContainerConstruction.Json.Reader
