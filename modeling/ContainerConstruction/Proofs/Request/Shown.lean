import ContainerConstruction.Plan
import ContainerConstruction.Proofs.Text.Apart
import Mathlib

/-!
# What a diagnostic tells

The text that shows a request or a plan tells all of it, but of a key its length alone.  Every part of such a text can
be told from what stands behind it, so the parts of a record and the items of a list can be told apart, and with them
what they show.
-/

namespace ContainerConstruction

open Text (Apart Marked isMark quoted apart_quoted apart_nat apart_int)

variable {α : Type} {close : Char} {rest other : List Char}

/-! ## Items between commas -/

/-- What stands behind an item: the items after it, and what stands behind them all. -/
def behind (items : List String) (rest : List Char) : List Char :=
  match items with
  | [] => rest
  | items => ',' :: ' ' :: ((", ".intercalate items).toList ++ rest)

theorem intercalate_append (item : String) (items : List String) (rest : List Char) :
    (", ".intercalate (item :: items)).toList ++ rest = item.toList ++ behind items rest := by
  cases items with
  | nil => rw [String.intercalate_singleton, behind]
  | cons next items =>
    rw [String.intercalate_cons_cons, String.toList_append, String.toList_append, List.append_assoc,
      List.append_assoc]
    rfl

theorem marked_behind (items : List String) (hrest : Marked rest) : Marked (behind items rest) := by
  cases items with
  | nil => exact hrest
  | cons item items => exact ⟨',', _, rfl, rfl⟩

/-- The first items of two lists are told apart by what closes them. -/
theorem item_append_inj {first second : String} (h : Apart first second) (hmark : isMark close = true)
    {items others : List String}
    (hsame : (", ".intercalate (first :: items)).toList ++ close :: rest =
      (", ".intercalate (second :: others)).toList ++ close :: other) :
    first = second ∧ behind items (close :: rest) = behind others (close :: other) := by
  rw [intercalate_append, intercalate_append] at hsame
  exact h (marked_behind items ⟨close, rest, hmark, rfl⟩) (marked_behind others ⟨close, other, hmark, rfl⟩) hsame

/-- Items are told apart if they are one by one, up to the mark that closes them. -/
theorem items_append_inj (hmark : isMark close = true) (hclose : close ≠ ',') {first second : String}
    {items others : List String} (hapart : ∀ pair ∈ (first :: items).zip (second :: others), Apart pair.1 pair.2)
    (h : (", ".intercalate (first :: items)).toList ++ close :: rest =
      (", ".intercalate (second :: others)).toList ++ close :: other) :
    first :: items = second :: others ∧ rest = other := by
  induction items generalizing first second others with
  | nil =>
    obtain ⟨hfirst, hbehind⟩ := item_append_inj (hapart _ List.mem_cons_self) hmark h
    cases others with
    | nil => exact ⟨congrArg ([·]) hfirst, (List.cons.inj hbehind).2⟩
    | cons next others => exact absurd (List.cons.inj hbehind).1 hclose
  | cons item items ih =>
    obtain ⟨hfirst, hbehind⟩ := item_append_inj (hapart _ List.mem_cons_self) hmark h
    cases others with
    | nil => exact absurd (List.cons.inj hbehind).1.symm hclose
    | cons next others =>
      obtain ⟨hitems, hrest⟩ := ih (fun pair hpair ↦ hapart pair (List.mem_cons_of_mem _ hpair))
        (List.cons.inj (List.cons.inj hbehind).2).2
      exact ⟨congrArg₂ List.cons hfirst hitems, hrest⟩

/-! ## Values -/

/-- Values whose texts are the same, whatever stands behind them, are the same in one respect or another. -/
def Tells (write : α → String) (same : α → α → Prop) : Prop :=
  ∀ ⦃value otherValue : α⦄ ⦃rest other : List Char⦄,
    (write value).toList ++ rest = (write otherValue).toList ++ other → same value otherValue ∧ rest = other

/-- Equal texts stand for the same value, in that respect. -/
theorem Tells.same_of_eq {write : α → String} {same : α → α → Prop} (h : Tells write same) {value other : α}
    (hsame : write value = write other) : same value other :=
  (@h value other [] [] (by rw [hsame])).1

theorem Tells.apart {write : α → String} {same : α → α → Prop} (h : Tells write same) (value other : α) :
    Apart (write value) (write other) := by
  intro rest otherRest _ _ hsame
  obtain ⟨-, rfl⟩ := h hsame
  exact ⟨String.toList_inj.mp (List.append_cancel_right hsame), rfl⟩

theorem tells_quoted : Tells quoted Eq := fun _ _ _ _ h ↦ Text.quoted_append_inj h

theorem Tells.apart_items {write : α → String} {same : α → α → Prop} (h : Tells write same) (values others : List α) :
    ∀ pair ∈ (values.map write).zip (others.map write), Apart pair.1 pair.2 := by
  intro pair hpair
  rw [List.zip_map] at hpair
  obtain ⟨inner, -, rfl⟩ := List.mem_map.mp hpair
  exact h.apart inner.1 inner.2

theorem Tells.forall₂_of_eq {write : α → String} {same : α → α → Prop} (h : Tells write same)
    {values others : List α} (hsame : values.map write = others.map write) :
    List.Forall₂ same values others := by
  rw [← List.forall₂_eq_eq_eq, List.forall₂_map_left_iff, List.forall₂_map_right_iff] at hsame
  exact hsame.imp fun _ _ ↦ h.same_of_eq

/-- A list tells what its items tell, if none of them can be taken for its end. -/
theorem Tells.list {write : α → String} {same : α → α → Prop} (h : Tells write same)
    (hitem : ∀ value rest other, (write value).toList ++ rest ≠ ']' :: other) :
    Tells (fun values ↦ shownList (values.map write)) (List.Forall₂ same) := by
  have hitems (value : α) (values : List α) (rest other : List Char) :
      (", ".intercalate ((value :: values).map write)).toList ++ rest ≠ ']' :: other := by
    rw [List.map_cons, intercalate_append]
    exact hitem value _ other
  intro values others rest other hsame
  have hbare : (", ".intercalate (values.map write)).toList ++ ']' :: rest =
      (", ".intercalate (others.map write)).toList ++ ']' :: other := by
    simpa [shownList] using hsame
  cases values with
  | nil =>
    cases others with
    | nil => exact ⟨.nil, (List.cons.inj hbare).2⟩
    | cons second others => exact absurd hbare.symm (hitems second others _ _)
  | cons first values =>
    cases others with
    | nil => exact absurd hbare (hitems first values _ _)
    | cons second others =>
      have hapart := h.apart_items (first :: values) (second :: others)
      obtain ⟨htexts, hrest⟩ := items_append_inj rfl (by decide) hapart hbare
      exact ⟨h.forall₂_of_eq htexts, hrest⟩

/-- Parts of two records that have the same names, and values that are told apart one by one. -/
def PartsApart (parts others : List (String × String)) : Prop :=
  List.Forall₂ (fun part other ↦ part.1 = other.1 ∧ Apart part.2 other.2) parts others

/-- A part with its value, as records show it. -/
def shownPart (part : String × String) : String := s!"{part.1}: {part.2}"

theorem shownRecord_eq (name : String) (parts : List (String × String)) :
    shownRecord name parts = name ++ " \x7b " ++ ", ".intercalate (parts.map shownPart) ++ " \x7d" := rfl

theorem PartsApart.eq_of_texts {parts others : List (String × String)} (h : PartsApart parts others)
    (htexts : parts.map shownPart = others.map shownPart) : parts = others := by
  induction h with
  | nil => rfl
  | @cons part otherPart parts others hpart _ ih =>
    obtain ⟨name, value⟩ := part
    obtain ⟨otherName, otherValue⟩ := otherPart
    obtain rfl : name = otherName := hpart.1
    obtain ⟨htext, hlater⟩ := List.cons.inj htexts
    obtain rfl : value = otherValue := (String.append_right_inj s!"{name}: ").mp htext
    rw [ih hlater]

theorem PartsApart.apart_texts {parts others : List (String × String)} (h : PartsApart parts others) :
    ∀ pair ∈ (parts.map shownPart).zip (others.map shownPart), Apart pair.1 pair.2 := by
  intro pair hpair
  rw [List.zip_map] at hpair
  obtain ⟨⟨⟨part, value⟩, otherPart, otherValue⟩, hinner, rfl⟩ := List.mem_map.mp hpair
  obtain ⟨rfl, hvalue⟩ := (List.forall₂_iff_zip.mp h).2 hinner
  exact hvalue.append_left s!"{part}: "

/-- Such parts are told apart by the texts of the records. -/
theorem shownRecord_append_inj {name : String} {parts others : List (String × String)}
    (hparts : PartsApart parts others)
    (h : (shownRecord name parts).toList ++ rest = (shownRecord name others).toList ++ other) :
    parts = others ∧ rest = other := by
  have hbare : (", ".intercalate (parts.map shownPart)).toList ++ ' ' :: '\x7d' :: rest =
      (", ".intercalate (others.map shownPart)).toList ++ ' ' :: '\x7d' :: other := by
    simpa [shownRecord_eq] using h
  have hitems := hparts.apart_texts
  have hvalues := hparts.eq_of_texts
  cases hparts with
  | nil => exact ⟨rfl, (List.cons.inj (List.cons.inj hbare).2).2⟩
  | cons hfirst hlater =>
    obtain ⟨htexts, hrest⟩ := items_append_inj rfl (by decide) hitems hbare
    exact ⟨hvalues htexts, (List.cons.inj hrest).2⟩

theorem toString_nat_inj {first second : Nat} : toString first = toString second ↔ first = second :=
  ⟨Nat.repr_injective, congrArg toString⟩

theorem toString_int_inj {first second : Int} : toString first = toString second ↔ first = second :=
  ⟨Int.repr_injective, congrArg toString⟩

theorem apart_bool (first second : Bool) : Apart (shownBool first) (shownBool second) := by
  have hmark (value : Bool) : ∀ c ∈ (shownBool value).toList, isMark c = false := by
    cases value <;> simp [shownBool, isMark]
  exact Text.apart_of_unmarked (hmark first) (hmark second)

theorem shownBool_inj {first second : Bool} : shownBool first = shownBool second ↔ first = second := by
  cases first <;> cases second <;> simp [shownBool]

/-- A record tells what its parts tell. -/
theorem tells_record {write : α → String} {same : α → α → Prop} {name : String}
    {parts : α → List (String × String)} (hwrite : ∀ value, write value = shownRecord name (parts value))
    (hparts : ∀ value other, PartsApart (parts value) (parts other))
    (hsame : ∀ value other, parts value = parts other → same value other) : Tells write same := by
  intro value otherValue rest other h
  rw [hwrite, hwrite] at h
  obtain ⟨hequal, hrest⟩ := shownRecord_append_inj (hparts value otherValue) h
  exact ⟨hsame value otherValue hequal, hrest⟩

/-! ## Arguments -/

theorem tells_options : Tells (fun options : List String ↦ shownList (options.map quoted)) Eq := by
  have hlist := tells_quoted.list fun value rest other ↦ by simp [quoted]
  rwa [List.forall₂_eq_eq_eq] at hlist

theorem MountArgs.tells_shown : Tells MountArgs.shown Eq := by
  refine tells_record (fun args ↦ rfl) (fun args other ↦ ?_) fun args other h ↦ ?_
  · exact .cons ⟨rfl, apart_quoted _ _⟩ (.cons ⟨rfl, apart_quoted _ _⟩ (.cons ⟨rfl, apart_quoted _ _⟩
      (.cons ⟨rfl, apart_nat _ _⟩ (.cons ⟨rfl, apart_quoted _ _⟩
        (.cons ⟨rfl, tells_options.apart args.options other.options⟩ .nil)))))
  · cases args
    cases other
    simp only [List.cons.injEq, Prod.mk.injEq, true_and, and_true, Text.quoted_inj, toString_nat_inj,
      UInt64.toNat_inj] at h
    obtain ⟨rfl, rfl, rfl, rfl, rfl, hoptions⟩ := h
    rw [tells_options.same_of_eq hoptions]

/-- Arguments for a device differ at most in the key, which has as many bytes in both. -/
def CryptArgs.SameButKey (first second : CryptArgs) : Prop :=
  ∃ key, first = { second with key } ∧ key.length = second.key.length

/-- Everything is told of a key but its bytes. -/
theorem CryptArgs.tells_shown : Tells CryptArgs.shown SameButKey := by
  refine tells_record (fun args ↦ rfl) (fun args other ↦ ?_) fun args other h ↦ ?_
  · have hbytes : Apart s!"<{args.key.length} bytes>" s!"<{other.key.length} bytes>" :=
      ((apart_nat _ _).append_left "<").append_right " bytes>" fun rest ↦ ⟨' ', _, rfl, rfl⟩
    exact .cons ⟨rfl, hbytes⟩ (.cons ⟨rfl, apart_quoted _ _⟩ (.cons ⟨rfl, apart_int _ _⟩ .nil))
  · cases args
    cases other
    simp only [List.cons.injEq, Prod.mk.injEq, true_and, and_true, Text.quoted_inj, toString_int_inj,
      Int32.toInt_inj] at h
    obtain ⟨hbytes, rfl, rfl⟩ := h
    refine ⟨_, rfl, ?_⟩
    exact toString_nat_inj.mp ((String.append_right_inj "<").mp ((String.append_left_inj " bytes>").mp hbytes))

theorem MkdirArgs.tells_shown : Tells MkdirArgs.shown Eq := by
  refine tells_record (fun args ↦ rfl) (fun args other ↦ ?_) fun args other h ↦ ?_
  · exact .cons ⟨rfl, apart_quoted _ _⟩ (.cons ⟨rfl, apart_nat _ _⟩ .nil)
  · cases args
    cases other
    simpa only [List.cons.injEq, Prod.mk.injEq, true_and, and_true, Text.quoted_inj, toString_nat_inj,
      UInt32.toNat_inj, MkdirArgs.mk.injEq] using h

theorem ChrootArgs.tells_shown : Tells ChrootArgs.shown Eq := by
  have hmark (method : RootMethod) : ∀ c ∈ method.shown.toList, isMark c = false := by
    cases method <;> simp [RootMethod.shown, isMark]
  have hmethod {method other : RootMethod} : method.shown = other.shown ↔ method = other := by
    cases method <;> cases other <;> simp [RootMethod.shown]
  refine tells_record (fun args ↦ rfl) (fun args other ↦ ?_) fun args other h ↦ ?_
  · exact .cons ⟨rfl, apart_quoted _ _⟩ (.cons ⟨rfl, Text.apart_of_unmarked (hmark _) (hmark _)⟩ .nil)
  · cases args
    cases other
    simpa only [List.cons.injEq, Prod.mk.injEq, true_and, and_true, Text.quoted_inj, hmethod,
      ChrootArgs.mk.injEq] using h

theorem LoopInfo.tells_shown : Tells LoopInfo.shown Eq := by
  refine tells_record (fun info ↦ rfl) (fun info other ↦ ?_) fun info other h ↦ ?_
  · exact .cons ⟨rfl, apart_nat _ _⟩ (.cons ⟨rfl, apart_nat _ _⟩ (.cons ⟨rfl, apart_bool _ _⟩
      (.cons ⟨rfl, apart_bool _ _⟩ .nil)))
  · cases info
    cases other
    simpa only [List.cons.injEq, Prod.mk.injEq, true_and, and_true, toString_nat_inj, UInt64.toNat_inj,
      shownBool_inj, LoopInfo.mk.injEq] using h

theorem LoopArgs.tells_shown : Tells LoopArgs.shown Eq := by
  refine tells_record (fun args ↦ rfl) (fun args other ↦ ?_) fun args other h ↦ ?_
  · exact .cons ⟨rfl, apart_quoted _ _⟩ (.cons ⟨rfl, apart_int _ _⟩ (.cons ⟨rfl, apart_nat _ _⟩
      (.cons ⟨rfl, apart_bool _ _⟩ (.cons ⟨rfl, LoopInfo.tells_shown.apart _ _⟩ .nil))))
  · cases args
    cases other
    simp only [List.cons.injEq, Prod.mk.injEq, true_and, and_true, Text.quoted_inj, toString_int_inj,
      Int32.toInt_inj, toString_nat_inj, UInt32.toNat_inj, shownBool_inj] at h
    obtain ⟨rfl, rfl, rfl, rfl, hinfo⟩ := h
    rw [LoopInfo.tells_shown.same_of_eq hinfo]

theorem HostnameArgs.tells_shown : Tells HostnameArgs.shown Eq := by
  refine tells_record (fun args ↦ rfl) (fun args other ↦ ?_) fun args other h ↦ ?_
  · exact .cons ⟨rfl, apart_quoted _ _⟩ .nil
  · cases args
    cases other
    simpa only [List.cons.injEq, Prod.mk.injEq, true_and, and_true, Text.quoted_inj,
      HostnameArgs.mk.injEq] using h

theorem SetFsIdArgs.tells_shown : Tells SetFsIdArgs.shown Eq := by
  refine tells_record (fun args ↦ rfl) (fun args other ↦ ?_) fun args other h ↦ ?_
  · exact .cons ⟨rfl, apart_nat _ _⟩ (.cons ⟨rfl, apart_nat _ _⟩ .nil)
  · cases args
    cases other
    simpa only [List.cons.injEq, Prod.mk.injEq, true_and, and_true, toString_nat_inj, UInt32.toNat_inj,
      SetFsIdArgs.mk.injEq] using h

theorem ChdirArgs.tells_shown : Tells ChdirArgs.shown Eq := by
  refine tells_record (fun args ↦ rfl) (fun args other ↦ ?_) fun args other h ↦ ?_
  · exact .cons ⟨rfl, apart_quoted _ _⟩ .nil
  · cases args
    cases other
    simpa only [List.cons.injEq, Prod.mk.injEq, true_and, and_true, Text.quoted_inj,
      ChdirArgs.mk.injEq] using h

/-! ## Requests and plans -/

namespace Request

/-- Requests differ at most in a key, which has as many bytes in both. -/
inductive SameButKey : Request → Request → Prop where
  | same (request : Request) : SameButKey request request
  | decrypt {first second : CryptArgs} (h : first.SameButKey second) : SameButKey (.decrypt first) (.decrypt second)

theorem toList_shown (request : Request) (rest : List Char) :
    request.shown.toList ++ rest = request.method.toList ++ '(' :: (request.shownArgs.toList ++ ')' :: rest) := by
  simp [shown, toString]

theorem isMark_of_mem_method (request : Request) : ∀ c ∈ request.method.toList, isMark c = false := by
  cases request <;> simp [method, isMark]

theorem sameButKey_of_tells {write : α → String} (htells : Tells write Eq) (wrap : α → Request) {args otherArgs : α}
    (h : (write args).toList ++ rest = (write otherArgs).toList ++ other) :
    (wrap args).SameButKey (wrap otherArgs) ∧ rest = other := by
  obtain ⟨rfl, hrest⟩ := htells h
  exact ⟨.same _, hrest⟩

/-- Requests of one operation are told apart by their arguments, up to the key. -/
theorem sameButKey_of_shownArgs {first second : Request} (hmethod : first.method = second.method)
    (h : first.shownArgs.toList ++ rest = second.shownArgs.toList ++ other) :
    first.SameButKey second ∧ rest = other := by
  cases first <;> cases second <;> simp [method] at hmethod
  case mount.mount => exact sameButKey_of_tells MountArgs.tells_shown .mount h
  case decrypt.decrypt =>
    obtain ⟨hsame, hrest⟩ := CryptArgs.tells_shown h
    exact ⟨.decrypt hsame, hrest⟩
  case mkdir.mkdir => exact sameButKey_of_tells MkdirArgs.tells_shown .mkdir h
  case chroot.chroot => exact sameButKey_of_tells ChrootArgs.tells_shown .chroot h
  case loopDevice.loopDevice => exact sameButKey_of_tells LoopArgs.tells_shown .loopDevice h
  case setHostname.setHostname => exact sameButKey_of_tells HostnameArgs.tells_shown .setHostname h
  case setFsId.setFsId => exact sameButKey_of_tells SetFsIdArgs.tells_shown .setFsId h
  case chdir.chdir => exact sameButKey_of_tells ChdirArgs.tells_shown .chdir h

/-- A request is told by its text, up to the key. -/
theorem tells_shown : Tells shown SameButKey := by
  intro first second rest other h
  rw [toList_shown, toList_shown] at h
  obtain ⟨hmethod, hargs⟩ := Text.apart_of_unmarked first.isMark_of_mem_method second.isMark_of_mem_method
    ⟨'(', _, rfl, rfl⟩ ⟨'(', _, rfl, rfl⟩ h
  obtain ⟨hsame, hrest⟩ := sameButKey_of_shownArgs hmethod (List.cons.inj hargs).2
  exact ⟨hsame, (List.cons.inj hrest).2⟩

/-- Keys of one length are shown alike. -/
theorem SameButKey.shown_eq {first second : Request} (h : first.SameButKey second) : first.shown = second.shown := by
  cases h with
  | same => rfl
  | decrypt h =>
    obtain ⟨key, rfl, hlength⟩ := h
    simp only [shown, shownArgs, method, CryptArgs.shown, hlength]

/-- The text of a request tells all of it but the bytes of a key. -/
theorem shown_eq_iff {first second : Request} : first.shown = second.shown ↔ first.SameButKey second :=
  ⟨tells_shown.same_of_eq, SameButKey.shown_eq⟩

end Request

namespace ConstructionPlan

theorem tells_steps :
    Tells (fun steps : List Request ↦ shownList (steps.map Request.shown)) (List.Forall₂ Request.SameButKey) := by
  refine Request.tells_shown.list fun request rest other ↦ ?_
  cases request <;> simp [Request.toList_shown, Request.method]

theorem tells_shown :
    Tells shown fun first second ↦ List.Forall₂ Request.SameButKey first.steps second.steps := by
  refine tells_record (fun plan ↦ rfl) (fun plan other ↦ ?_) fun plan other h ↦ ?_
  · exact .cons ⟨rfl, tells_steps.apart plan.steps other.steps⟩ .nil
  · simp only [List.cons.injEq, Prod.mk.injEq, true_and, and_true] at h
    exact tells_steps.same_of_eq h

/-- Plans with the same text are those that differ at most in the bytes of their keys. -/
theorem shown_eq_iff {first second : ConstructionPlan} :
    first.shown = second.shown ↔ List.Forall₂ Request.SameButKey first.steps second.steps := by
  refine ⟨tells_shown.same_of_eq, fun h ↦ ?_⟩
  have htexts : first.steps.map Request.shown = second.steps.map Request.shown := by
    rw [← List.forall₂_eq_eq_eq, List.forall₂_map_left_iff, List.forall₂_map_right_iff]
    exact h.imp fun _ _ ↦ Request.SameButKey.shown_eq
  rw [shown, shown, htexts]

end ConstructionPlan

end ContainerConstruction
