import ContainerConstruction.Json.Document
import Mathlib.Data.List.Basic

/-!
# The same value written otherwise

A `Layout` says which parts of a written value may be written otherwise, and `Rewrites` what may be done
there: members are reordered, left out where they have a default, and surplus ones are added; a tagged value
is written as a pair.  `Repeats` says when a document of a layout has a member twice that it may have once.

Nothing is said here about who reads such a document.
-/

namespace ContainerConstruction.Json

open Document

/-! ## Ordinary documents -/

namespace Document

/-- A document that has a value: no number is out of range, no text has an unpaired surrogate, and no more
containers are nested than may be opened. -/
def IsOrdinary (depth : Nat) (document : Document) : Prop := (document.toJson? depth).isSome = true

theorem isSome_itemsToJson? (depth : Nat) (items : List Document) :
    (itemsToJson? depth items).isSome = true ↔ ∀ item ∈ items, item.IsOrdinary depth := by
  induction items with
  | nil => simp [itemsToJson?]
  | cons item rest ih =>
    rw [List.forall_mem_cons, ← ih, itemsToJson?, IsOrdinary]
    cases toJson? depth item <;> cases itemsToJson? depth rest <;> simp

theorem isSome_membersToJson? (depth : Nat) (members : List (Option String × Document)) :
    (membersToJson? depth members).isSome = true ↔
      ∀ member ∈ members, member.1.isSome = true ∧ member.2.IsOrdinary depth := by
  induction members with
  | nil => simp [membersToJson?]
  | cons member rest ih =>
    obtain ⟨name, value⟩ := member
    rw [List.forall_mem_cons, ← ih, membersToJson?.eq_def, IsOrdinary]
    cases name <;> cases hvalue : toJson? depth value <;> cases hrest : membersToJson? depth rest <;>
      simp [hvalue, hrest]

theorem isOrdinary_array (depth : Nat) (items : List Document) (closed : Bool) :
    (array items closed).IsOrdinary depth ↔
      depth ≠ 0 ∧ closed = true ∧ ∀ item ∈ items, item.IsOrdinary (depth - 1) := by
  rw [IsOrdinary, toJson?, ← isSome_itemsToJson?]
  by_cases hdepth : depth = 0 <;> cases closed <;> simp [hdepth]

theorem isOrdinary_object (depth : Nat) (members : List (Option String × Document)) (closed : Bool) :
    (object members closed).IsOrdinary depth ↔ depth ≠ 0 ∧ closed = true ∧
      ∀ member ∈ members, member.1.isSome = true ∧ member.2.IsOrdinary (depth - 1) := by
  rw [IsOrdinary, toJson?, ← isSome_membersToJson?]
  by_cases hdepth : depth = 0 <;> cases closed <;> simp [hdepth]

theorem areWhole_iff (items : List Document) : areWhole items = true ↔ ∀ item ∈ items, item.isWhole = true := by
  induction items with
  | nil => simp [areWhole]
  | cons item rest ih => simp [areWhole, ih]

theorem membersWhole_iff (members : List (Option String × Document)) :
    membersWhole members = true ↔ ∀ member ∈ members, member.2.isWhole = true := by
  induction members with
  | nil => simp [membersWhole]
  | cons member rest ih => simp [membersWhole, ih]

/-- What holds of a container as soon as it holds of its parts holds of every document. -/
theorem induction_parts {motive : Document → Prop} (broken : motive .broken) (null : motive .null)
    (bool : ∀ value, motive (.bool value)) (integer : ∀ value, motive (.integer value))
    (decimal : ∀ literal finite, motive (.decimal literal finite)) (string : ∀ text, motive (.string text))
    (array : ∀ items closed, (∀ item ∈ items, motive item) → motive (.array items closed))
    (object : ∀ members closed, (∀ member ∈ members, motive member.2) → motive (.object members closed)) :
    ∀ document, motive document
  | .broken => broken
  | .null => null
  | .bool value => bool value
  | .integer value => integer value
  | .decimal literal finite => decimal literal finite
  | .string text => string text
  | .array items closed => array items closed fun item _ ↦
      induction_parts broken null bool integer decimal string array object item
  | .object members closed => object members closed fun member _ ↦
      induction_parts broken null bool integer decimal string array object member.2
termination_by document => sizeOf document
decreasing_by
  · rename_i hitem
    have hsize := List.sizeOf_lt_of_mem hitem
    simp only [Document.array.sizeOf_spec]
    omega
  · rename_i hmember
    have hsize := List.sizeOf_lt_of_mem hmember
    obtain ⟨name, value⟩ := member
    simp only [Document.object.sizeOf_spec, Prod.mk.sizeOf_spec] at hsize ⊢
    omega

/-- There may be more room. -/
theorem IsOrdinary.mono {depth deeper : Nat} {document : Document} (h : document.IsOrdinary depth)
    (hdeeper : depth ≤ deeper) : document.IsOrdinary deeper := by
  induction document using induction_parts generalizing depth deeper with
  | broken => cases h
  | null | bool _ | integer _ | decimal _ _ | string _ => exact h
  | array items closed ih =>
    rw [isOrdinary_array] at h ⊢
    exact ⟨by omega, h.2.1, fun item hitem ↦ ih item hitem (h.2.2 item hitem) (by omega)⟩
  | object members closed ih =>
    rw [isOrdinary_object] at h ⊢
    refine ⟨by omega, h.2.1, fun member hmember ↦ ⟨(h.2.2 member hmember).1, ?_⟩⟩
    exact ih member hmember (h.2.2 member hmember).2 (by omega)

/-- An ordinary document holds no syntax error. -/
theorem IsOrdinary.isWhole {depth : Nat} {document : Document} (h : document.IsOrdinary depth) :
    document.isWhole = true := by
  induction document using induction_parts generalizing depth with
  | broken => cases h
  | null | bool _ | integer _ | decimal _ _ | string _ => rfl
  | array items closed ih =>
    obtain ⟨-, rfl, hitems⟩ := (isOrdinary_array depth items closed).mp h
    rw [Document.isWhole, Bool.true_and, areWhole_iff]
    exact fun item hitem ↦ ih item hitem (hitems item hitem)
  | object members closed ih =>
    obtain ⟨-, rfl, hmembers⟩ := (isOrdinary_object depth members closed).mp h
    rw [Document.isWhole, Bool.true_and, membersWhole_iff]
    exact fun member hmember ↦ ih member hmember (hmembers member hmember).2

end Document

/-! ## Layouts -/

/-- Which parts of a written value may be written otherwise. -/
inductive Layout where
  /-- A value that is written in one way. -/
  | fixed
  /-- An object of members, each with the value that stands for it if it is left out. -/
  | record (members : List (String × Layout × Option Json))
  /-- A name alone, or an object with a name as its only member. -/
  | named (cases : List (String × Layout))
  /-- An object with a name in one member, and what belongs to that name in another one. -/
  | tagged (tag content : String) (cases : List (String × Layout))

/-- Members that nobody reads: their names are other ones, and their values are ordinary. -/
def Surplus (known : List String) (depth : Nat) (members : List (Option String × Document)) : Prop :=
  ∀ member ∈ members, ∃ name, member.1 = some name ∧ name ∉ known ∧ member.2.IsOrdinary depth

mutual

/-- The documents that stand for a written value where `depth` containers may still be opened. -/
inductive Rewrites : Layout → Nat → Json → Document → Prop where
  | fixed {depth : Nat} (value : Json) : Rewrites .fixed depth value (.ofJson value)
  | record {members : List (String × Layout × Option Json)} {depth : Nat} {values : List (String × Json)}
      {kept surplus documents : List (Option String × Document)}
      (hkept : RewritesMembers members depth values kept)
      (hsurplus : Surplus (members.map (·.1)) depth surplus) (hperm : documents.Perm (kept ++ surplus)) :
      Rewrites (.record members) (depth + 1) (.object values) (.object documents true)
  | name {cases : List (String × Layout)} {depth : Nat} (name : String) :
      Rewrites (.named cases) depth (.string name) (.string (some name))
  | named {cases : List (String × Layout)} {depth : Nat} {name : String} {layout : Layout} {value : Json}
      {document : Document} (hcase : (name, layout) ∈ cases) (hvalue : Rewrites layout depth value document) :
      Rewrites (.named cases) (depth + 1) (.object [(name, value)]) (.object [(some name, document)] true)
  | tagged {tag content : String} {cases : List (String × Layout)} {depth : Nat} {name : String}
      {layout : Layout} {value : Json} {document : Document} {surplus documents : List (Option String × Document)}
      (hcase : (name, layout) ∈ cases) (hcontent : Rewrites layout depth value document)
      (hsurplus : Surplus [tag, content] depth surplus)
      (hperm : documents.Perm
        ((some tag, .string (some name)) :: (some content, document) :: surplus)) :
      Rewrites (.tagged tag content cases) (depth + 1) (.object [(tag, .string name), (content, value)])
        (.object documents true)
  | pair {tag content : String} {cases : List (String × Layout)} {depth : Nat} {name : String}
      {layout : Layout} {value : Json} {document : Document} (hcase : (name, layout) ∈ cases)
      (hcontent : Rewrites layout depth value document) :
      Rewrites (.tagged tag content cases) (depth + 1) (.object [(tag, .string name), (content, value)])
        (.array [.string (some name), document] true)

/-- The members that stand for written ones: each is kept, or left out if it has its default. -/
inductive RewritesMembers : List (String × Layout × Option Json) → Nat → List (String × Json) →
    List (Option String × Document) → Prop where
  | nil {members : List (String × Layout × Option Json)} {depth : Nat} : RewritesMembers members depth [] []
  | kept {members : List (String × Layout × Option Json)} {depth : Nat} {name : String} {layout : Layout}
      {default : Option Json} {value : Json} {document : Document} {values : List (String × Json)}
      {documents : List (Option String × Document)} (hmember : (name, layout, default) ∈ members)
      (hvalue : Rewrites layout depth value document)
      (hrest : RewritesMembers members depth values documents) :
      RewritesMembers members depth ((name, value) :: values) ((some name, document) :: documents)
  | leftOut {members : List (String × Layout × Option Json)} {depth : Nat} {name : String} {layout : Layout}
      {value : Json} {values : List (String × Json)} {documents : List (Option String × Document)}
      (hmember : (name, layout, some value) ∈ members)
      (hrest : RewritesMembers members depth values documents) :
      RewritesMembers members depth ((name, value) :: values) documents

end

theorem Surplus.ordinary {known : List String} {depth : Nat} {members : List (Option String × Document)}
    (h : Surplus known depth members) :
    ∀ member ∈ members, member.1.isSome = true ∧ member.2.IsOrdinary depth := by
  intro member hmember
  obtain ⟨name, hname, -, hordinary⟩ := h member hmember
  exact ⟨Option.isSome_iff_exists.mpr ⟨name, hname⟩, hordinary⟩

/-- An object is ordinary if its members are, in whatever order they stand. -/
theorem Document.isOrdinary_of_perm {depth : Nat} {documents members : List (Option String × Document)}
    (hperm : documents.Perm members)
    (h : ∀ member ∈ members, member.1.isSome = true ∧ member.2.IsOrdinary depth) :
    (object documents true).IsOrdinary (depth + 1) := by
  rw [isOrdinary_object]
  exact ⟨Nat.succ_ne_zero depth, rfl, fun member hmember ↦ h member (hperm.mem_iff.mp hmember)⟩

/-- Every member that is kept was written. -/
theorem RewritesMembers.exists_written {members : List (String × Layout × Option Json)} {depth : Nat}
    {values : List (String × Json)} {kept : List (Option String × Document)}
    (h : RewritesMembers members depth values kept) :
    ∀ member ∈ kept, ∃ written ∈ values, member.1 = some written.1 := by
  match h with
  | .nil => exact List.forall_mem_nil _
  | .kept _ _ hrest =>
    refine List.forall_mem_cons.mpr ⟨⟨_, List.mem_cons_self, rfl⟩, fun member hmember ↦ ?_⟩
    obtain ⟨written, hwritten, hname⟩ := hrest.exists_written member hmember
    exact ⟨written, List.mem_cons_of_mem _ hwritten, hname⟩
  | .leftOut _ hrest =>
    intro member hmember
    obtain ⟨written, hwritten, hname⟩ := hrest.exists_written member hmember
    exact ⟨written, List.mem_cons_of_mem _ hwritten, hname⟩

/-- A member of this name occurs more than once. -/
def Twice (name : String) (members : List (Option String × Document)) : Prop :=
  1 < members.countP (·.1 = some name)

/-- Passing members of another name by does not change how often a name occurs. -/
theorem twice_filter {name other : String} (hother : other ≠ name)
    (documents : List (Option String × Document)) :
    Twice other (documents.filter (·.1 ≠ some name)) ↔ Twice other documents := by
  have hcount : (documents.filter (·.1 ≠ some name)).countP (·.1 = some other) =
      documents.countP (·.1 = some other) := by
    rw [List.countP_filter]
    refine List.countP_congr fun member _ ↦ ?_
    simp only [Bool.and_eq_true, decide_eq_true_eq, and_iff_left_iff_imp]
    intro hname hsame
    exact hother (Option.some.inj (hname.symm.trans hsame))
  rw [Twice, Twice, hcount]

/-- The ways to write the name of a tag. -/
inductive WritesTag : Document → String → Prop where
  | text (name : String) : WritesTag (.string (some name)) name
  | object (name : String) : WritesTag (.object [(some name, .null)] true) name

/-- Some member of a layout occurs more than once, here or further inside. -/
inductive Repeats : Layout → Document → Prop where
  | member {members : List (String × Layout × Option Json)} {documents : List (Option String × Document)}
      {closed : Bool} {name : String} {layout : Layout} {default : Option Json}
      (hmember : (name, layout, default) ∈ members) (htwice : Twice name documents) :
      Repeats (.record members) (.object documents closed)
  | inMember {members : List (String × Layout × Option Json)} {documents : List (Option String × Document)}
      {closed : Bool} {name : String} {layout : Layout} {default : Option Json} {document : Document}
      (hmember : (name, layout, default) ∈ members) (hdocument : (some name, document) ∈ documents)
      (hrepeats : Repeats layout document) : Repeats (.record members) (.object documents closed)
  | inItem {members : List (String × Layout × Option Json)} {documents : List Document} {closed : Bool}
      {index : Nat} {name : String} {layout : Layout} {default : Option Json} {document : Document}
      (hmember : members[index]? = some (name, layout, default))
      (hdocument : documents[index]? = some document) (hrepeats : Repeats layout document) :
      Repeats (.record members) (.array documents closed)
  | name {cases : List (String × Layout)} {documents : List (Option String × Document)} {closed : Bool}
      {name : String} (htwice : Twice name documents) : Repeats (.named cases) (.object documents closed)
  | inNamed {cases : List (String × Layout)} {documents : List (Option String × Document)} {closed : Bool}
      {name : String} {layout : Layout} {document : Document} (hcase : (name, layout) ∈ cases)
      (hdocument : (some name, document) ∈ documents) (hrepeats : Repeats layout document) :
      Repeats (.named cases) (.object documents closed)
  | tag {tag content : String} {cases : List (String × Layout)} {documents : List (Option String × Document)}
      {closed : Bool} (htwice : Twice tag documents) :
      Repeats (.tagged tag content cases) (.object documents closed)
  | content {tag content : String} {cases : List (String × Layout)}
      {documents : List (Option String × Document)} {closed : Bool} (htwice : Twice content documents) :
      Repeats (.tagged tag content cases) (.object documents closed)
  | inContent {tag content : String} {cases : List (String × Layout)}
      {documents : List (Option String × Document)} {closed : Bool} {tagDocument document : Document}
      {name : String} {layout : Layout} (htag : (some tag, tagDocument) ∈ documents)
      (hname : WritesTag tagDocument name) (hcase : (name, layout) ∈ cases)
      (hdocument : (some content, document) ∈ documents) (hrepeats : Repeats layout document) :
      Repeats (.tagged tag content cases) (.object documents closed)
  | inPair {tag content : String} {cases : List (String × Layout)} {others : List Document} {closed : Bool}
      {name : String} {layout : Layout} {document : Document} (hcase : (name, layout) ∈ cases)
      (hrepeats : Repeats layout document) :
      Repeats (.tagged tag content cases) (.array (.string (some name) :: document :: others) closed)

end ContainerConstruction.Json
