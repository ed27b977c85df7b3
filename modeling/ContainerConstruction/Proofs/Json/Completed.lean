import ContainerConstruction.Proofs.Json.Completion

/-!
# Completed records and tagged values

A record that is read is built from the parts of its document: each member gives its value, or its default
where there is no such part.  This holds for objects and for arrays, and what is written follows from it.  A
tagged value that is read has one tag and one content, which are written in this order.
-/

namespace ContainerConstruction.Json.Reader

variable {α β : Type}

/-! ## Records -/

/-- What a member gives: its document, or its default where there is no document. -/
def Supplies (inside : Position) (read : Reader β) (absent : Option β) : Option Document → β → Prop
  | some document, value => read inside document = .ok value
  | none, value => absent = some value

namespace Fields

variable {fields : Fields α} {inside : Position} {documents : List (Option String × Document)} {value : α}

/-- Fields of these names, of which none has been found yet. -/
inductive Awaits : {α : Type} → Fields α → List String → Prop where
  | done {α : Type} (build : α) : Awaits (.done build) []
  | field {α β : Type} {name : String} {read : Reader β} {absent : Option β} {rest : Fields (β → α)}
      {names : List String} (hrest : Awaits rest names) :
      Awaits (.field name read absent none rest) (name :: names)

/-- A record is built from what its members give. -/
inductive Built (inside : Position) (part : String → Option Document) : {α : Type} → Fields α → α → Prop where
  | done {α : Type} (build : α) : Built inside part (.done build) build
  | field {α β : Type} {name : String} {read : Reader β} {absent : Option β} {rest : Fields (β → α)}
      {value : β} {build : β → α} (hvalue : Supplies inside read absent (part name) value)
      (hrest : Built inside part rest build) :
      Built inside part (.field name read absent none rest) (build value)

theorem Built.exists_field {name : String} {read : Reader β} {absent : Option β} {rest : Fields (β → α)}
    {part : String → Option Document}
    (h : (Fields.field name read absent none rest).Built inside part value) :
    ∃ given build, value = build given ∧ Supplies inside read absent (part name) given ∧
      rest.Built inside part build := by
  cases h with
  | field hvalue hrest => exact ⟨_, _, rfl, hvalue, hrest⟩

/-- Only the parts of its own names matter to a record. -/
theorem Built.congr {names : List String} (hawaits : fields.Awaits names) {part other : String → Option Document}
    (h : fields.Built inside part value) (hsame : ∀ name ∈ names, part name = other name) :
    fields.Built inside other value := by
  induction hawaits with
  | done =>
    cases h
    exact .done _
  | field _ ih =>
    obtain ⟨hself, hothers⟩ := List.forall_mem_cons.mp hsame
    cases h with
    | field hvalue hrest => exact .field (hself ▸ hvalue) (ih hrest hothers)

/-! ### Objects -/

/-- Members of another name are found among the members that are left without one name. -/
theorem lookup_filter {name other : String} (hother : other ≠ name)
    (documents : List (Option String × Document)) :
    (documents.filter (·.1 ≠ some name)).lookup (some other) = documents.lookup (some other) := by
  induction documents with
  | nil => rfl
  | cons member rest ih =>
    obtain ⟨found, document⟩ := member
    by_cases hname : found = some name
    · have hdifferent : (some other == found) = false := by simp [hname, hother]
      rw [List.filter_cons_of_neg (by simp [hname]), ih, List.lookup_cons, hdifferent]
    · rw [List.filter_cons_of_pos (by simp [hname]), List.lookup_cons, List.lookup_cons, ih]

/-- A field that has been found is not met again. -/
theorem putAll_found {name : String} {read : Reader β} {absent : Option β} {given : β}
    {rest : Fields (β → α)} {taken : Fields α}
    (h : (Fields.field name read absent (some given) rest).putAll inside documents = .ok taken) :
    documents.lookup (some name) = none ∧ ∃ next, taken = .field name read absent (some given) next ∧
      rest.putAll inside (documents.filter (·.1 ≠ some name)) = .ok next := by
  induction documents generalizing rest with
  | nil =>
    cases h
    exact ⟨rfl, rest, rfl, rfl⟩
  | cons member others ih =>
    obtain ⟨_ | other, document⟩ := member
    · cases h
    · rw [putAll] at h
      by_cases hname : other = name
      · simp [put, hname] at h
      · simp only [put, if_neg hname] at h
        cases hput : put inside other document rest with
        | error error => simp [hput] at h
        | ok next =>
          simp only [hput] at h
          obtain ⟨hnone, last, htaken, hlast⟩ := ih h
          have hdifferent : (some name == some other) = false := by simp [Ne.symm hname]
          refine ⟨by rw [List.lookup_cons, hdifferent, hnone], last, htaken, ?_⟩
          simpa [hname, putAll, hput] using hlast

/-- A field takes what the first member of its name gives, and the other members go to the fields behind
it. -/
theorem putAll_awaited {name : String} {read : Reader β} {absent : Option β} {rest : Fields (β → α)}
    {taken : Fields α}
    (h : (Fields.field name read absent none rest).putAll inside documents = .ok taken) :
    ∃ found next, taken = .field name read absent found next ∧
      rest.putAll inside (documents.filter (·.1 ≠ some name)) = .ok next ∧
      ∀ value, found.or absent = some value →
        Supplies inside read absent (documents.lookup (some name)) value := by
  induction documents generalizing rest with
  | nil =>
    cases h
    exact ⟨none, rest, rfl, rfl, fun _ ↦ id⟩
  | cons member others ih =>
    obtain ⟨_ | other, document⟩ := member
    · cases h
    · rw [putAll] at h
      by_cases hname : other = name
      · subst hname
        simp only [put, if_true] at h
        cases hread : read inside document with
        | error error => simp [hread] at h
        | ok given =>
          simp only [hread] at h
          obtain ⟨-, next, htaken, hnext⟩ := putAll_found h
          refine ⟨some given, next, htaken, by simpa using hnext, fun value hvalue ↦ ?_⟩
          rw [List.lookup_cons_self]
          exact hread.trans (congrArg Except.ok (Option.some.inj hvalue))
      · simp only [put, if_neg hname] at h
        cases hput : put inside other document rest with
        | error error => simp [hput] at h
        | ok next =>
          simp only [hput] at h
          obtain ⟨found, last, htaken, hlast, hsupplies⟩ := ih h
          have hdifferent : (some name == some other) = false := by simp [Ne.symm hname]
          refine ⟨found, last, htaken, by simpa [hname, putAll, hput] using hlast, ?_⟩
          rw [List.lookup_cons, hdifferent]
          exact hsupplies

/-- Where no field is left, no member is taken. -/
theorem putAll_done_inv {build : α} {taken : Fields α}
    (h : (Fields.done build).putAll inside documents = .ok taken) : taken = .done build := by
  induction documents with
  | nil =>
    cases h
    rfl
  | cons member others ih =>
    obtain ⟨_ | name, document⟩ := member
    · cases h
    · rw [putAll] at h
      by_cases hwhole : document.isWhole = true
      · simp only [put, if_pos hwhole] at h
        exact ih h
      · simp [put, hwhole] at h

/-- By induction on the fields: each takes the member of its name, the others are left to those behind it. -/
theorem built_of_putAll {names : List String} (hawaits : fields.Awaits names) (hnodup : names.Nodup)
    {taken : Fields α} (hput : fields.putAll inside documents = .ok taken) (hfinish : taken.finish = .ok value) :
    fields.Built inside (fun name ↦ documents.lookup (some name)) value := by
  induction hawaits generalizing documents with
  | done build =>
    cases putAll_done_inv hput
    cases hfinish
    exact .done _
  | @field _ _ name read absent rest names hrest ih =>
    obtain ⟨hname, hnodup⟩ := List.nodup_cons.mp hnodup
    obtain ⟨found, next, rfl, hnext, hsupplies⟩ := putAll_awaited hput
    rw [finish] at hfinish
    split at hfinish
    · cases hfinish
    · rename_i given hgiven
      cases hbuild : next.finish with
      | error error => simp [hbuild, Except.map] at hfinish
      | ok build =>
        simp only [hbuild, Except.map, Except.ok.injEq] at hfinish
        subst hfinish
        refine .field (hsupplies given hgiven) ((ih hnodup hnext hbuild).congr hrest fun other hother ↦ ?_)
        exact lookup_filter (fun hsame : other = name ↦ hname (hsame ▸ hother)) documents

/-! ### Arrays -/

/-- A record that is written as an array takes its members in declared order. -/
theorem built_of_ofItems {names : List String} (hawaits : fields.Awaits names) (hnodup : names.Nodup)
    {items left : List Document} (h : fields.ofItems inside items = .ok (value, left)) :
    fields.Built inside (fun name ↦ (names.zip items).lookup name) value := by
  induction hawaits generalizing items left with
  | done build =>
    cases h
    exact .done _
  | @field _ _ name read absent rest names hrest ih =>
    obtain ⟨hname, hnodup⟩ := List.nodup_cons.mp hnodup
    cases items with
    | nil =>
      cases absent with
      | none => cases h
      | some given =>
        rw [ofItems] at h
        cases hothers : rest.ofItems inside [] with
        | error error => simp [hothers, Except.map] at h
        | ok built =>
          obtain ⟨build, unread⟩ := built
          simp only [hothers, Except.map] at h
          cases h
          refine .field rfl ((ih hnodup hothers).congr hrest fun other _ ↦ ?_)
          rw [List.zip_nil_right, List.zip_nil_right]
    | cons item others =>
      rw [ofItems] at h
      cases hread : read inside item with
      | error error => simp [hread] at h
      | ok given =>
        cases hothers : rest.ofItems inside others with
        | error error => simp [hread, hothers, Except.map] at h
        | ok built =>
          obtain ⟨build, unread⟩ := built
          simp only [hread, hothers, Except.map] at h
          cases h
          refine .field ?_ ((ih hnodup hothers).congr hrest fun other hother ↦ ?_)
          · rw [List.zip_cons_cons, List.lookup_cons_self]
            exact hread
          · have hdifferent : (other == name) = false := by
              simpa using fun hsame : other = name ↦ hname (hsame ▸ hother)
            rw [List.zip_cons_cons, List.lookup_cons, hdifferent]

end Fields

/-- A record that is read is built from the parts of its document, in either form. -/
theorem built_of_record {fields : Fields α} {names : List String} (hawaits : fields.Awaits names)
    (hnodup : names.Nodup) {position : Position} {document : Document} {value : α}
    (h : record fields position document = .ok value) :
    ∃ inside, position.enter = .ok inside ∧
      fields.Built inside (fun name ↦ document.part? names name) value := by
  unfold record at h
  split at h
  · rename_i members closed
    cases henter : position.enter with
    | error error => simp [henter] at h
    | ok inside =>
      cases hput : fields.putAll inside members with
      | error error => simp [henter, hput] at h
      | ok taken =>
        simp only [henter, hput] at h
        split_ifs at h
        exact ⟨inside, rfl, Fields.built_of_putAll hawaits hnodup hput h⟩
  · rename_i items closed
    cases henter : position.enter with
    | error error => simp [henter] at h
    | ok inside =>
      cases hitems : fields.ofItems inside items with
      | error error => simp [henter, hitems] at h
      | ok built =>
        obtain ⟨given, left⟩ := built
        simp only [henter, hitems] at h
        split_ifs at h
        cases h
        exact ⟨inside, rfl, Fields.built_of_ofItems hawaits hnodup hitems⟩
  · cases h

namespace Fields

/-- The readers of fields complete the members of a table.  `holds` relates the record to the members that are
written for it, whatever the values of the fields are. -/
inductive Described (room : Nat) :
    {α : Type} → Fields α → List Member → (α → List (String × Json) → Prop) → Prop where
  | done {α : Type} {build : α} {holds : α → List (String × Json) → Prop} (hbuild : holds build []) :
      Described room (.done build) [] holds
  | field {α β : Type} {name : String} {read : Reader β} {write : β → Json} {complete : Completion}
      {presence : Presence} {absent : Option β} {rest : Fields (β → α)} {members : List Member}
      {holds : α → List (String × Json) → Prop} (hread : Completes room read write complete)
      (habsent : absent.map write = presence.default?)
      (hrest : Described room rest members fun build values ↦
        ∀ value, holds (build value) (presence.written name (write value) ++ values)) :
      Described room (.field name read absent none rest) (⟨name, complete, presence⟩ :: members) holds

variable {room : Nat} {fields : Fields α} {members : List Member} {holds : α → List (String × Json) → Prop}
  {inside : Position} {value : α}

theorem Described.awaits (h : fields.Described room members holds) :
    fields.Awaits (members.map (·.name)) := by
  induction h with
  | done => exact .done _
  | field _ _ _ ih => exact .field ih

/-- A member is written with the value that was given, or with its default. -/
theorem written_of_supplies {read : Reader β} {write : β → Json} {member : Member} {absent : Option β}
    (hread : Completes room read write member.complete) (habsent : absent.map write = member.presence.default?)
    (hroom : inside.depth ≤ room) {part : Option Document} {value : β}
    (h : Supplies inside read absent part value) :
    member.written part = member.presence.written member.name (write value) := by
  cases part with
  | none =>
    have hdefault : member.presence.default? = some (write value) := by
      rw [← habsent, show absent = some value from h, Option.map_some]
    rw [Member.written, Option.map_none, Option.none_or, hdefault]
  | some document =>
    rw [Member.written, Option.map_some, Option.some_or, ← hread.write_eq hroom h]

/-- By induction on the fields. -/
theorem Described.holds_of_built (h : fields.Described room members holds) (hroom : inside.depth ≤ room)
    {part : String → Option Document} (hbuilt : fields.Built inside part value) :
    holds value (members.flatMap fun member ↦ member.written (part member.name)) := by
  induction h with
  | done hbuild =>
    cases hbuilt
    exact hbuild
  | field hread habsent _ ih =>
    cases hbuilt with
    | @field _ _ _ _ _ _ value _ hvalue hrest =>
      have hholds := ih hrest value
      rwa [List.flatMap_cons, written_of_supplies hread habsent hroom hvalue]

end Fields

/-- A record is written with all its members, each as it was given or with its default. -/
theorem completes_record {fields : Fields α} {members : List Member} {write : α → Json} {room : Nat}
    (hnodup : (members.map (·.name)).Nodup)
    (h : fields.Described room members fun value values ↦ write value = .object values) :
    Completes room (record fields) write (.record members) where
  write_eq hroom hread := by
    obtain ⟨inside, henter, hbuilt⟩ := built_of_record h.awaits hnodup hread
    exact h.holds_of_built (Nat.le_trans (depth_le_of_enter henter) hroom) hbuilt

/-! ## Tagged values -/

variable {tag content : String} {variants : List (String × Reader α)}

theorem lookup_of_perm {name : String} {document : Document}
    {documents others : List (Option String × Document)} (hperm : documents.Perm ((some name, document) :: others))
    (hothers : ∀ member ∈ others, member.1 ≠ some name) : documents.lookup (some name) = some document := by
  obtain ⟨-, honly⟩ := once_of_perm hperm hothers
  cases hlookup : documents.lookup (some name) with
  | none =>
    have hmember := hperm.mem_iff.mpr List.mem_cons_self
    simpa using List.lookup_eq_none_iff.mp hlookup _ hmember
  | some other =>
    obtain ⟨before, after, hdocuments, -⟩ := List.lookup_eq_some_iff.mp hlookup
    rw [honly other (by simp [hdocuments])]

/-- A tagged value that is read has a tag and a content, and the variant of the tag reads the content. -/
theorem parts_of_tagged (htags : content ≠ tag) {position : Position} {document : Document} {value : α}
    (h : tagged tag content variants position document = .ok value) :
    ∃ name tagDocument part read inside, document.part? [tag, content] tag = some tagDocument ∧
      tagDocument.tagName? = some name ∧ document.part? [tag, content] content = some part ∧
        (name, read) ∈ variants ∧ read inside part = .ok value := by
  cases document with
  | object documents closed =>
    obtain ⟨inside, htake⟩ := takeAllTagged_of_tagged h
    obtain ⟨tagDocument, part, read, further, strangers, hperm, hstrangers, hchoice, hread⟩ :=
      perm_of_empty htags htake
    obtain ⟨name, hname, hvariant⟩ := mem_of_choice hchoice
    refine ⟨name, tagDocument, part, read, further, ?_, hname, ?_, hvariant, hread⟩
    · refine lookup_of_perm hperm (List.forall_mem_cons.mpr ⟨?_, fun member hmember ↦ ?_⟩)
      · exact fun hsame ↦ htags (Option.some.inj hsame)
      · exact (hstrangers member hmember).1
    · refine lookup_of_perm (hperm.trans (List.Perm.swap _ _ _))
        (List.forall_mem_cons.mpr ⟨?_, fun member hmember ↦ ?_⟩)
      · exact fun hsame ↦ htags (Option.some.inj hsame).symm
      · exact (hstrangers member hmember).2
  | array items closed =>
    obtain _ | ⟨first, others⟩ := items
    · cases h
    · simp only [tagged] at h
      cases henter : position.enter with
      | error error => simp [henter] at h
      | ok inside =>
        simp only [henter] at h
        split at h
        · rename_i name
          cases hselect : selectVariant variants name with
          | error error => simp [hselect] at h
          | ok read =>
            simp only [hselect] at h
            split at h
            · rename_i second
              cases hread : read inside second with
              | error error => simp [hread] at h
              | ok given =>
                simp only [hread] at h
                split_ifs at h
                cases h
                have hdifferent : (content == tag) = false := by simpa using htags
                refine ⟨name, .string (some name), second, read, inside, ?_, rfl, ?_,
                  mem_of_selectVariant hselect, hread⟩
                · rw [Document.part?, List.zip_cons_cons, List.lookup_cons_self]
                · rw [Document.part?, List.zip_cons_cons, List.lookup_cons, hdifferent, List.zip_cons_cons,
                    List.lookup_cons_self]
            · split at h <;> cases h
            · cases h
        · cases h
  | broken | null | bool _ | integer _ | decimal _ _ | string _ => cases h

/-- A tagged value is written with the content that its tag asks for. -/
theorem completes_tagged (htags : content ≠ tag) {cases : List (String × Completion)} {write : α → Json}
    {room : Nat}
    (hvariants : ∀ variant ∈ variants, ∃ complete, cases.lookup variant.1 = some complete ∧
      ∀ {inside : Position} {part : Document} {value : α}, variant.2 inside part = .ok value →
        write value = .object [(tag, .string variant.1), (content, complete part)]) :
    Completes room (tagged tag content variants) write (.tagged tag content cases) where
  write_eq {position document value} _ hread := by
    obtain ⟨name, tagDocument, part, read, inside, htag, hname, hcontent, hvariant, hvalue⟩ :=
      parts_of_tagged htags hread
    obtain ⟨complete, hcase, hwrite⟩ := hvariants _ hvariant
    calc
      write value = .object [(tag, .string name), (content, complete part)] := hwrite hvalue
      _ = Completion.tagged tag content cases document := by
        simp only [Completion.tagged, htag, Option.bind_some, hname, hcontent, hcase]

end ContainerConstruction.Json.Reader
