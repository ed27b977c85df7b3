import ContainerConstruction.Proofs.Json.Conforms

/-!
# Tagged and named values conform to their layout

The tag and the content of a value may stand anywhere among surplus members.  A content that comes first is
set aside and read once the tag is known; both ways give the same value.  A tagged value that is read has its
tag once and its content once.  A value that is named by the only member of an object has no such freedom.
-/

namespace ContainerConstruction.Json.Reader

variable {α : Type} {tag content : String} {variants : List (String × Reader α)} {inside : Position}
  {documents : List (Option String × Document)}

/-! ## Reading -/

theorem takeAllTagged_append {first : List (Option String × Document)} {state between : TaggedState α}
    (h : takeAllTagged tag content variants inside state first = .ok between)
    (second : List (Option String × Document)) :
    takeAllTagged tag content variants inside state (first ++ second) =
      takeAllTagged tag content variants inside between second := by
  induction first generalizing state with
  | nil =>
    cases h
    rfl
  | cons member others ih =>
    obtain ⟨_ | name, document⟩ := member
    · cases h
    · rw [List.cons_append, takeAllTagged] at *
      cases htake : takeTagged tag content variants inside name document state with
      | error error => simp [htake] at h
      | ok next =>
        simp only [htake] at h
        exact ih h

/-- Surplus members are passed over. -/
theorem takeAllTagged_surplus {depth : Nat} (h : Surplus [tag, content] depth documents)
    (state : TaggedState α) : takeAllTagged tag content variants inside state documents = .ok state := by
  induction documents with
  | nil => rfl
  | cons member others ih =>
    obtain ⟨⟨name, hname, hunknown, hordinary⟩, hothers⟩ := List.forall_mem_cons.mp h
    obtain ⟨_, document⟩ := member
    cases hname
    have htag : name ≠ tag := fun hsame ↦ hunknown (hsame ▸ List.mem_cons_self)
    have hcontent : name ≠ content := fun hsame ↦
      hunknown (List.mem_cons_of_mem _ (hsame ▸ List.mem_cons_self))
    have htake : takeTagged tag content variants inside name document state = .ok state := by
      cases state <;> simp [takeTagged, htag, hcontent, hordinary.isWhole]
    rw [takeAllTagged]
    simp only [htake]
    exact ih hothers

/-- Two items of a reordered list stand somewhere between the others, in either order. -/
theorem exists_insert_two {γ : Type} {first second : γ} {others items : List γ}
    (h : items.Perm (first :: second :: others)) :
    ∃ before middle after, (before ++ (middle ++ after)).Perm others ∧
      (items = before ++ first :: (middle ++ second :: after) ∨
        items = before ++ second :: (middle ++ first :: after)) := by
  obtain ⟨before, after, rfl, hrest⟩ := exists_insert h
  obtain hsecond | hsecond := List.mem_append.mp (hrest.mem_iff.mpr List.mem_cons_self)
  · obtain ⟨front, middle, rfl⟩ := List.append_of_mem hsecond
    refine ⟨front, middle, after, ?_, .inr (by simp)⟩
    simp only [List.append_assoc, List.cons_append] at hrest
    exact (List.perm_middle.symm.trans hrest).cons_inv
  · obtain ⟨middle, back, rfl⟩ := List.append_of_mem hsecond
    refine ⟨before, middle, back, ?_, .inl rfl⟩
    rw [← List.append_assoc] at hrest ⊢
    exact (List.perm_middle.symm.trans hrest).cons_inv

/-- Tag and content are found wherever they stand. -/
theorem takeAllTagged_of_perm (htags : content ≠ tag) {tagDocument document : Document} {read : Reader α}
    {value : α} (hchoice : choice variants inside tagDocument = .ok read)
    (hordinary : document.IsOrdinary inside.depth)
    (hread : ∀ buffered, read { inside with buffered := buffered } document = .ok value)
    {depth : Nat} {surplus : List (Option String × Document)} (hsurplus : Surplus [tag, content] depth surplus)
    (hperm : documents.Perm ((some tag, tagDocument) :: (some content, document) :: surplus)) :
    takeAllTagged tag content variants inside .empty documents = .ok (.both value) := by
  obtain ⟨before, middle, after, hstrangers, hdocuments⟩ := exists_insert_two hperm
  have hpass (part : List (Option String × Document)) (hpart : part ⊆ before ++ (middle ++ after))
      (state : TaggedState α) : takeAllTagged tag content variants inside state part = .ok state :=
    takeAllTagged_surplus (fun member hmember ↦ hsurplus member (hstrangers.subset (hpart hmember))) state
  have hbefore := hpass before (by simp) .empty
  have hmiddle := hpass middle (by simp)
  have hafter := hpass after (by simp) (.both value)
  obtain rfl | rfl := hdocuments
  · have htag : takeTagged tag content variants inside tag tagDocument .empty = .ok (.tag read) := by
      simp [takeTagged, hchoice, Except.map]
    have hcontent : takeTagged tag content variants inside content document (.tag read) =
        .ok (.both value) := by
      simp [takeTagged, htags, hread inside.buffered, Except.map]
    rw [takeAllTagged_append hbefore, takeAllTagged]
    simp only [htag]
    rw [takeAllTagged_append (hmiddle _), takeAllTagged]
    simp only [hcontent]
    exact hafter
  · have hcontent : takeTagged tag content variants inside content document .empty =
        .ok (.content document) := by
      have hsome : (document.toJson? inside.depth).isSome = true := hordinary
      simp [takeTagged, htags, hsome]
    have htag : takeTagged tag content variants inside tag tagDocument (.content document) =
        .ok (.both value) := by
      simp [takeTagged, hchoice, hread true, Except.map]
    rw [takeAllTagged_append hbefore, takeAllTagged]
    simp only [hcontent]
    rw [takeAllTagged_append (hmiddle _), takeAllTagged]
    simp only [htag]
    exact hafter

/-! ## What a read value says of its document -/

/-- Members that are neither the tag nor the content. -/
def Strangers (tag content : String) (members : List (Option String × Document)) : Prop :=
  ∀ member ∈ members, member.1 ≠ some tag ∧ member.1 ≠ some content

/-- Nothing happens up to the first member that is the tag or the content. -/
theorem exists_first {state last : TaggedState α}
    (h : takeAllTagged tag content variants inside state documents = .ok last) :
    (Strangers tag content documents ∧ last = state) ∨ ∃ before name document after next,
      documents = before ++ (some name, document) :: after ∧ Strangers tag content before ∧
        (name = tag ∨ name = content) ∧
          takeTagged tag content variants inside name document state = .ok next ∧
            takeAllTagged tag content variants inside next after = .ok last := by
  induction documents with
  | nil =>
    cases h
    exact .inl ⟨List.forall_mem_nil _, rfl⟩
  | cons member others ih =>
    obtain ⟨_ | name, document⟩ := member
    · cases h
    · rw [takeAllTagged] at h
      cases htake : takeTagged tag content variants inside name document state with
      | error error => simp [htake] at h
      | ok next =>
        simp only [htake] at h
        by_cases hmet : name = tag ∨ name = content
        · exact .inr ⟨[], name, document, others, next, rfl, List.forall_mem_nil _, hmet, htake, h⟩
        · obtain ⟨htag, hcontent⟩ := not_or.mp hmet
          have hstranger : some name ≠ some tag ∧ some name ≠ some content :=
            ⟨fun hsame ↦ htag (Option.some.inj hsame), fun hsame ↦ hcontent (Option.some.inj hsame)⟩
          have hnext : next = state := by
            cases state <;> simp only [takeTagged, if_neg htag, if_neg hcontent] at htake <;>
              split at htake <;> cases htake <;> rfl
          subst hnext
          obtain ⟨hothers, rfl⟩ | ⟨before, first, document', after, next', rfl, hbefore, hfirst⟩ := ih h
          · exact .inl ⟨List.forall_mem_cons.mpr ⟨hstranger, hothers⟩, rfl⟩
          · exact .inr ⟨(some name, document) :: before, first, document', after, next', rfl,
              List.forall_mem_cons.mpr ⟨hstranger, hbefore⟩, hfirst⟩

/-- Once both are met, neither is met again. -/
theorem strangers_of_both (htags : content ≠ tag) {value : α} {last : TaggedState α}
    (h : takeAllTagged tag content variants inside (.both value) documents = .ok last) :
    Strangers tag content documents ∧ last = .both value := by
  obtain hnone | ⟨_, name, document, _, next, -, -, rfl | rfl, htake, -⟩ := exists_first h
  · exact hnone
  · simp [takeTagged] at htake
  · simp [takeTagged, htags] at htake

/-- The members around one that was met. -/
theorem Strangers.append {before after : List (Option String × Document)}
    (hbefore : Strangers tag content before) (hafter : Strangers tag content after) :
    Strangers tag content (before ++ after) := by
  intro member hmember
  obtain hmember | hmember := List.mem_append.mp hmember
  · exact hbefore member hmember
  · exact hafter member hmember

/-- Behind the tag there is one content, and members that nobody reads. -/
theorem perm_of_tag (htags : content ≠ tag) {read : Reader α} {value : α}
    (h : takeAllTagged tag content variants inside (.tag read) documents = .ok (.both value)) :
    ∃ document strangers, documents.Perm ((some content, document) :: strangers) ∧
      Strangers tag content strangers ∧ read inside document = .ok value := by
  obtain ⟨-, hlast⟩ | ⟨before, name, document, after, next, rfl, hbefore, rfl | rfl, htake, hafter⟩ :=
    exists_first h
  · cases hlast
  · simp [takeTagged] at htake
  · simp only [takeTagged, if_neg htags, if_true] at htake
    cases hread : read inside document with
    | error error => simp [hread, Except.map] at htake
    | ok given =>
      simp only [hread, Except.map] at htake
      cases htake
      obtain ⟨hstrangers, hlast⟩ := strangers_of_both htags hafter
      cases hlast
      exact ⟨document, before ++ after, List.perm_middle, hbefore.append hstrangers, hread⟩

/-- Behind the content there is one tag, and members that nobody reads. -/
theorem perm_of_content (htags : content ≠ tag) {aside : Document} {value : α}
    (h : takeAllTagged tag content variants inside (.content aside) documents = .ok (.both value)) :
    ∃ tagDocument read strangers, documents.Perm ((some tag, tagDocument) :: strangers) ∧
      Strangers tag content strangers ∧ choice variants inside tagDocument = .ok read ∧
        read { inside with buffered := true } aside = .ok value := by
  obtain ⟨-, hlast⟩ | ⟨before, name, document, after, next, rfl, hbefore, rfl | rfl, htake, hafter⟩ :=
    exists_first h
  · cases hlast
  · simp only [takeTagged, if_true] at htake
    cases hchoice : choice variants inside document with
    | error error => simp [hchoice] at htake
    | ok read =>
      cases hread : read { inside with buffered := true } aside with
      | error error => simp [hchoice, hread, Except.map] at htake
      | ok given =>
        simp only [hchoice, hread, Except.map] at htake
        cases htake
        obtain ⟨hstrangers, hlast⟩ := strangers_of_both htags hafter
        cases hlast
        exact ⟨document, read, before ++ after, List.perm_middle, hbefore.append hstrangers, hchoice, hread⟩
  · simp [takeTagged, htags] at htake

/-- A tagged value that is read has one tag and one content, and strangers around them. -/
theorem perm_of_empty (htags : content ≠ tag) {value : α}
    (h : takeAllTagged tag content variants inside .empty documents = .ok (.both value)) :
    ∃ tagDocument document read position strangers,
      documents.Perm ((some tag, tagDocument) :: (some content, document) :: strangers) ∧
        Strangers tag content strangers ∧ choice variants inside tagDocument = .ok read ∧
          read position document = .ok value := by
  obtain ⟨-, hlast⟩ | ⟨before, name, met, after, next, rfl, hbefore, rfl | rfl, htake, hafter⟩ :=
    exists_first h
  · cases hlast
  · simp only [takeTagged, if_true] at htake
    cases hchoice : choice variants inside met with
    | error error => simp [hchoice, Except.map] at htake
    | ok read =>
      simp only [hchoice, Except.map] at htake
      cases htake
      obtain ⟨document, strangers, hperm, hstrangers, hread⟩ := perm_of_tag htags hafter
      refine ⟨met, document, read, inside, before ++ strangers, ?_, hbefore.append hstrangers, hchoice, hread⟩
      refine List.perm_middle.trans (List.Perm.cons _ ?_)
      exact (hperm.append_left before).trans List.perm_middle
  · simp only [takeTagged, if_neg htags, if_true] at htake
    split at htake
    · cases htake
      obtain ⟨tagDocument, read, strangers, hperm, hstrangers, hchoice, hread⟩ := perm_of_content htags hafter
      refine ⟨tagDocument, met, read, _, before ++ strangers, ?_, hbefore.append hstrangers, hchoice, hread⟩
      refine List.perm_middle.trans (List.Perm.trans (List.Perm.cons _ ?_) (List.Perm.swap _ _ _))
      exact (hperm.append_left before).trans List.perm_middle
    · cases htake

theorem takeAllTagged_of_tagged {position : Position} {value : α} {closed : Bool}
    (h : tagged tag content variants position (.object documents closed) = .ok value) :
    ∃ inside, takeAllTagged tag content variants inside .empty documents = .ok (.both value) := by
  simp only [tagged] at h
  cases henter : position.enter with
  | error error => simp [henter] at h
  | ok inside =>
    cases htake : takeAllTagged tag content variants inside .empty documents with
    | error error => simp [henter, htake] at h
    | ok state =>
      refine ⟨inside, htake.trans ?_⟩
      cases closed <;> cases state <;> simp_all

/-- A member that no other one shares its name with is the only one of that name. -/
theorem once_of_perm {name : String} {document : Document} {others : List (Option String × Document)}
    (hperm : documents.Perm ((some name, document) :: others))
    (hothers : ∀ member ∈ others, member.1 ≠ some name) :
    ¬Twice name documents ∧ ∀ other, (some name, other) ∈ documents → other = document := by
  have hnone : others.countP (·.1 = some name) = 0 :=
    List.countP_eq_zero.mpr fun member hmember ↦ by simpa using hothers member hmember
  refine ⟨?_, fun other hother ↦ ?_⟩
  · rw [Twice, hperm.countP_eq]
    simp [hnone]
  · obtain _ | ⟨_, hmember⟩ := hperm.mem_iff.mp hother
    · rfl
    · exact absurd rfl (hothers _ hmember)

/-- A tagged value that is read has its tag once, its content once, and the content is read by the variant of
the tag. -/
theorem once_of_tagged (htags : content ≠ tag) {position : Position} {value : α} {closed : Bool}
    (h : tagged tag content variants position (.object documents closed) = .ok value) :
    ¬Twice tag documents ∧ ¬Twice content documents ∧ ∃ inside further,
      ∀ tagDocument document, (some tag, tagDocument) ∈ documents → (some content, document) ∈ documents →
        ∃ read, choice variants inside tagDocument = .ok read ∧ read further document = .ok value := by
  obtain ⟨inside, htake⟩ := takeAllTagged_of_tagged h
  obtain ⟨tagDocument, document, read, further, strangers, hperm, hstrangers, hchoice, hread⟩ :=
    perm_of_empty htags htake
  have htag := once_of_perm hperm ?_
  · have hcontent := once_of_perm (hperm.trans (List.Perm.swap _ _ _)) ?_
    · refine ⟨htag.1, hcontent.1, inside, further, fun tagDocument' document' htag' hcontent' ↦ ?_⟩
      cases htag.2 tagDocument' htag'
      cases hcontent.2 document' hcontent'
      exact ⟨read, hchoice, hread⟩
    · refine List.forall_mem_cons.mpr ⟨?_, fun member hmember ↦ (hstrangers member hmember).2⟩
      exact fun hsame ↦ htags (Option.some.inj hsame).symm
  · refine List.forall_mem_cons.mpr ⟨?_, fun member hmember ↦ (hstrangers member hmember).1⟩
    exact fun hsame ↦ htags (Option.some.inj hsame)

/-! ## Conformity -/

/-- A variant reads what belongs to the values of its name. -/
inductive Carries (least : Nat) (tagOf : α → String) (contentOf : α → Json) (name : String) (layout : Layout) :
    Reader α → Prop where
  | mk {β : Type} {read : Reader β} {write : β → Json} (make : β → α)
      (hread : Conforms read layout write least)
      (hmade : ∀ value, tagOf value = name → ∃ part, value = make part ∧ contentOf value = write part) :
      Carries least tagOf contentOf name layout fun position document ↦ (read position document).map make

namespace Carries

variable {least : Nat} {tagOf : α → String} {contentOf : α → Json} {value : α} {layout : Layout}
  {read : Reader α} {depth : Nat} {document : Document} {position : Position}

theorem exact (h : Carries least tagOf contentOf (tagOf value) layout read) : (contentOf value).IsExact := by
  obtain ⟨make, hread, hmade⟩ := h
  obtain ⟨part, -, hcontent⟩ := hmade value rfl
  rw [hcontent]
  exact hread.exact part

theorem self (h : Carries least tagOf contentOf (tagOf value) layout read) (hdepth : least ≤ depth) :
    Rewrites layout depth (contentOf value) (Document.ofJson (contentOf value)) := by
  obtain ⟨make, hread, hmade⟩ := h
  obtain ⟨part, -, hcontent⟩ := hmade value rfl
  rw [hcontent]
  exact hread.self part hdepth

theorem ordinary (h : Carries least tagOf contentOf (tagOf value) layout read) (hdepth : least ≤ depth)
    (hrewrites : Rewrites layout depth (contentOf value) document) : document.IsOrdinary depth := by
  obtain ⟨make, hread, hmade⟩ := h
  obtain ⟨part, -, hcontent⟩ := hmade value rfl
  rw [hcontent] at hrewrites
  exact hread.ordinary part hdepth hrewrites

/-- What rewrites the content of a name is read as the value of that name. -/
theorem read_eq (h : Carries least tagOf contentOf (tagOf value) layout read) (hdepth : least ≤ depth)
    (hposition : depth ≤ position.depth) (hrewrites : Rewrites layout depth (contentOf value) document) :
    read position document = .ok value := by
  obtain ⟨make, hread, hmade⟩ := h
  obtain ⟨part, rfl, hcontent⟩ := hmade value rfl
  rw [hcontent] at hrewrites
  simp only [hread.read_eq part hdepth hposition hrewrites, Except.map]

theorem unrepeated {name : String} (h : Carries least tagOf contentOf name layout read)
    (hvalue : read position document = .ok value) : ¬Repeats layout document := by
  obtain @⟨_, part, _, make, hread, -⟩ := h
  cases hpart : part position document with
  | error error => simp [hpart, Except.map] at hvalue
  | ok given => exact hread.unrepeated hpart

end Carries

/-- The two ways to write a tag give the variant of its name. -/
theorem choice_of_writesTag {tagDocument : Document} {name : String} (hname : WritesTag tagDocument name)
    {read given : Reader α} (hvariant : variants.find? (·.1 = name) = some (name, read))
    (hchoice : choice variants inside tagDocument = .ok given) : given = read := by
  cases hname with
  | text =>
    rw [choice_eq hvariant] at hchoice
    exact (Except.ok.inj hchoice).symm
  | object =>
    cases henter : inside.enter with
    | error error => simp [choice, variant, henter] at hchoice
    | ok further =>
      simp [choice, variant, henter, selectVariant_bare hvariant, ofVariant, isNothing] at hchoice
      exact hchoice.symm

/-- What is read of a tagged value is its content, as the variant of its tag reads it. -/
theorem read_of_tagged {position : Position} {value : α} {closed : Bool} {name : String} {document : Document}
    {others : List Document} {read : Reader α} (hvariant : variants.find? (·.1 = name) = some (name, read))
    (h : tagged tag content variants position (.array (.string (some name) :: document :: others) closed) =
      .ok value) : ∃ inside given, read inside document = .ok given := by
  have hselect : selectVariant variants name = .ok read := by simp [selectVariant, hvariant]
  simp only [tagged] at h
  cases henter : position.enter with
  | error error => simp [henter] at h
  | ok inside =>
    cases hread : read inside document with
    | error error => cases others <;> simp [henter, hselect, hread] at h
    | ok given => exact ⟨inside, given, hread⟩

theorem exists_case {name : String} {cases : List (String × Layout)} (h : name ∈ cases.map (·.1)) :
    ∃ layout, (name, layout) ∈ cases := by
  obtain ⟨⟨_, layout⟩, hcase, rfl⟩ := List.mem_map.mp h
  exact ⟨layout, hcase⟩

/-- A tagged value conforms to its tag and the layouts of its cases. -/
theorem conforms_tagged (htags : content ≠ tag) {cases : List (String × Layout)} {tagOf : α → String}
    {contentOf : α → Json} {least : Nat}
    (htagOf : ∀ value, tagOf value ∈ cases.map (·.1))
    (hvariants : ∀ written ∈ cases, ∃ read, variants.find? (·.1 = written.1) = some (written.1, read) ∧
      Carries least tagOf contentOf written.1 written.2 read) :
    Conforms (tagged tag content variants) (.tagged tag content cases)
      (fun value ↦ .object [(tag, .string (tagOf value)), (content, contentOf value)]) (least + 1) where
  exact value := by
    obtain ⟨layout, hcase⟩ := exists_case (htagOf value)
    obtain ⟨read, -, hcarries⟩ := hvariants _ hcase
    exact ⟨trivial, hcarries.exact, trivial⟩
  self value depth hdepth := by
    obtain ⟨depth, rfl⟩ : ∃ less, depth = less + 1 := ⟨depth - 1, by omega⟩
    obtain ⟨layout, hcase⟩ := exists_case (htagOf value)
    obtain ⟨read, -, hcarries⟩ := hvariants _ hcase
    exact .tagged hcase (hcarries.self (Nat.le_of_succ_le_succ hdepth)) (List.forall_mem_nil _)
      (List.Perm.refl _)
  ordinary value depth document hdepth hrewrites := by
    cases hrewrites with
    | tagged hcase hcontent hsurplus hperm =>
      obtain ⟨read, -, hcarries⟩ := hvariants _ hcase
      have hordinary := hcarries.ordinary (Nat.le_of_succ_le_succ hdepth) hcontent
      exact Document.isOrdinary_of_perm hperm (List.forall_mem_cons.mpr
        ⟨⟨rfl, rfl⟩, List.forall_mem_cons.mpr ⟨⟨rfl, hordinary⟩, hsurplus.ordinary⟩⟩)
    | pair hcase hcontent =>
      obtain ⟨read, -, hcarries⟩ := hvariants _ hcase
      have hordinary := hcarries.ordinary (Nat.le_of_succ_le_succ hdepth) hcontent
      rw [Document.isOrdinary_array]
      exact ⟨Nat.succ_ne_zero _, rfl, List.forall_mem_cons.mpr ⟨rfl, List.forall_mem_singleton.mpr hordinary⟩⟩
  read_eq value depth document position hdepth hposition hrewrites := by
    cases hrewrites with
    | tagged hcase hcontent hsurplus hperm =>
      obtain ⟨inside, henter, hinside⟩ := enter_of_lt hposition
      obtain ⟨read, hvariant, hcarries⟩ := hvariants _ hcase
      have hordinary := (hcarries.ordinary (Nat.le_of_succ_le_succ hdepth) hcontent).mono hinside
      have htake := takeAllTagged_of_perm htags (choice_eq hvariant inside) hordinary
        (fun _ ↦ hcarries.read_eq (Nat.le_of_succ_le_succ hdepth) (by exact hinside) hcontent) hsurplus hperm
      simp only [tagged, henter, htake, if_true]
    | pair hcase hcontent =>
      obtain ⟨inside, henter, hinside⟩ := enter_of_lt hposition
      obtain ⟨read, hvariant, hcarries⟩ := hvariants _ hcase
      have hread := hcarries.read_eq (Nat.le_of_succ_le_succ hdepth) hinside hcontent
      have hselect : selectVariant variants (tagOf value) = .ok read := by simp [selectVariant, hvariant]
      simp only [tagged, henter, hselect, hread, if_true]
  unrepeated {position document value} hread hrepeats := by
    cases hrepeats with
    | inPair hcase hrepeats =>
      obtain ⟨read, hvariant, hcarries⟩ := hvariants _ hcase
      obtain ⟨inside, given, hgiven⟩ := read_of_tagged hvariant hread
      exact hcarries.unrepeated hgiven hrepeats
    | tag htwice => exact (once_of_tagged htags hread).1 htwice
    | content htwice => exact (once_of_tagged htags hread).2.1 htwice
    | inContent htag hname hcase hdocument hrepeats =>
      obtain ⟨-, -, inside, further, hreads⟩ := once_of_tagged htags hread
      obtain ⟨given, hchoice, hvalue⟩ := hreads _ _ htag hdocument
      obtain ⟨read, hvariant, hcarries⟩ := hvariants _ hcase
      cases choice_of_writesTag hname hvariant hchoice
      exact hcarries.unrepeated hvalue hrepeats

/-! ## Named values -/

/-- An object that is read has a name as its only member, and the value of the name is read by its variant. -/
theorem variant_object_inv {variants : List (String × Variant α)} {position : Position} {value : α}
    {closed : Bool} (h : variant variants position (.object documents closed) = .ok value) :
    ∃ name document inside found, documents = [(some name, document)] ∧
      selectVariant variants name = .ok found ∧ ofVariant inside document found = .ok value := by
  simp only [variant] at h
  cases henter : position.enter with
  | error error => simp [henter] at h
  | ok inside =>
    rcases documents with _ | ⟨⟨_ | name, document⟩, others⟩
    · simp [henter] at h
    · simp [henter] at h
    · simp only [henter] at h
      split at h
      · cases h
      · cases hselect : selectVariant variants name with
        | error error => simp [hselect] at h
        | ok found =>
          cases hfound : ofVariant inside document found with
          | error error => simp [hselect, hfound] at h
          | ok given =>
            cases others <;> cases closed <;> simp [hselect, hfound] at h
            exact ⟨name, document, inside, found, rfl, hselect, by rw [hfound, h]⟩

/-- A variant conforms to the layouts of its cases. -/
theorem conforms_variant {variants : List (String × Variant α)} {cases : List (String × Layout)}
    {write : α → Json} {tagOf : α → String} {contentOf : α → Json} {least : Nat}
    (hwrite : ∀ value, (write value = .string (tagOf value) ∧
        variants.find? (·.1 = tagOf value) = some (tagOf value, .bare value)) ∨
      (write value = .object [(tagOf value, contentOf value)] ∧ tagOf value ∈ cases.map (·.1)))
    (hvariants : ∀ written ∈ cases, ∃ read,
      variants.find? (·.1 = written.1) = some (written.1, .carrying read) ∧
        Carries least tagOf contentOf written.1 written.2 read) :
    Conforms (variant variants) (.named cases) write (least + 1) where
  exact value := by
    obtain ⟨hname, -⟩ | ⟨hobject, hcase⟩ := hwrite value
    · rw [hname]
      trivial
    · obtain ⟨layout, hcase⟩ := exists_case hcase
      obtain ⟨read, -, hcarries⟩ := hvariants _ hcase
      rw [hobject]
      exact ⟨hcarries.exact, trivial⟩
  self value depth hdepth := by
    obtain ⟨hname, -⟩ | ⟨hobject, hcase⟩ := hwrite value
    · rw [hname]
      exact .name (tagOf value)
    · obtain ⟨depth, rfl⟩ : ∃ less, depth = less + 1 := ⟨depth - 1, by omega⟩
      obtain ⟨layout, hcase⟩ := exists_case hcase
      obtain ⟨read, -, hcarries⟩ := hvariants _ hcase
      rw [hobject]
      exact .named hcase (hcarries.self (Nat.le_of_succ_le_succ hdepth))
  ordinary value depth document hdepth hrewrites := by
    obtain ⟨hname, -⟩ | ⟨hobject, -⟩ := hwrite value
    · rw [hname] at hrewrites
      cases hrewrites
      rfl
    · rw [hobject] at hrewrites
      cases hrewrites with
      | named hcase hvalue =>
        obtain ⟨read, -, hcarries⟩ := hvariants _ hcase
        have hordinary := hcarries.ordinary (Nat.le_of_succ_le_succ hdepth) hvalue
        rw [Document.isOrdinary_object]
        exact ⟨Nat.succ_ne_zero _, rfl, List.forall_mem_singleton.mpr ⟨rfl, hordinary⟩⟩
  read_eq value depth document position hdepth hposition hrewrites := by
    obtain ⟨hname, hvariant⟩ | ⟨hobject, -⟩ := hwrite value
    · rw [hname] at hrewrites
      cases hrewrites
      simp only [variant, selectVariant, hvariant]
    · rw [hobject] at hrewrites
      cases hrewrites with
      | named hcase hvalue =>
        obtain ⟨inside, henter, hinside⟩ := enter_of_lt hposition
        obtain ⟨read, hvariant, hcarries⟩ := hvariants _ hcase
        have hread := hcarries.read_eq (Nat.le_of_succ_le_succ hdepth) hinside hvalue
        have hselect : selectVariant variants (tagOf value) = .ok (.carrying read) := by
          simp [selectVariant, hvariant]
        simp [variant, henter, hselect, ofVariant, hread]
  unrepeated {position document value} hread hrepeats := by
    cases hrepeats with
    | name htwice =>
      obtain ⟨found, document, -, -, rfl, -, -⟩ := variant_object_inv hread
      exact absurd (htwice.trans_le List.countP_le_length) (Nat.lt_irrefl 1)
    | inNamed hcase hdocument hrepeats =>
      obtain ⟨read, hvariant, hcarries⟩ := hvariants _ hcase
      obtain ⟨found, document, inside, given, rfl, hselect, hvalue⟩ := variant_object_inv hread
      cases List.mem_singleton.mp hdocument
      have hgiven : given = .carrying read := by
        simp only [selectVariant, hvariant] at hselect
        exact (Except.ok.inj hselect).symm
      subst hgiven
      exact hcarries.unrepeated hvalue hrepeats

end ContainerConstruction.Json.Reader
