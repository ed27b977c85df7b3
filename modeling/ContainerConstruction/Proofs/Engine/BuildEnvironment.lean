import ContainerConstruction.Host.Execution
import Mathlib.Data.List.Basic
import Mathlib.Data.List.Induction
import Mathlib.Data.List.TakeDrop
import Mathlib.Data.List.TakeWhile

/-!
# The environment of build scripts

`BuildConfig.Gives` says which entries give build scripts a variable.  A script sees the value that the last
such entry gives; without any it sees the search path, the home directory and nothing else.  So entries of any
other kind may be added and taken away without a difference to a build.
-/

namespace ContainerConstruction

/-! ## Variables -/

namespace Environment

theorem value?_cons (name known kept : String) (rest : List (String × String)) :
    value? name ((known, kept) :: rest) = if known = name then some kept else value? name rest := by
  by_cases h : known = name <;> simp [value?, h]

/-- Setting a variable changes that variable and no other one. -/
theorem value?_insert (name other value : String) (environment : List (String × String)) :
    value? other (insert name value environment) =
      if name = other then some value else value? other environment := by
  induction environment with
  | nil => exact value?_cons other name value []
  | cons first rest ih =>
    obtain ⟨known, kept⟩ := first
    by_cases hbefore : name < known
    · rw [insert, if_pos hbefore, value?_cons]
    by_cases hsame : name = known
    · rw [insert, if_neg hbefore, if_pos hsame, value?_cons, value?_cons, hsame]
      split_ifs <;> rfl
    · rw [insert, if_neg hbefore, if_neg hsame, value?_cons, value?_cons, ih]
      split_ifs with hknown hname
      · exact absurd (hname.trans hknown.symm) hsame
      all_goals rfl

/-- A later binding replaces an earlier one. -/
theorem value?_ofBindings_concat (name other value : String) (bindings : List (String × String)) :
    value? other (ofBindings (bindings ++ [(name, value)])) =
      if name = other then some value else value? other (ofBindings bindings) := by
  rw [ofBindings, List.foldl_append]
  exact value?_insert name other value _

end Environment

/-! ## Entries -/

/-- An entry is cut at its first `=`. -/
theorem splitEntry_eq_some_iff {entry key value : String} :
    splitEntry entry = some (key, value) ↔ entry = key ++ "=" ++ value ∧ '=' ∉ key.toList := by
  unfold splitEntry
  rw [List.span_eq_takeWhile_dropWhile]
  constructor
  · intro h
    have hcut := List.takeWhile_append_dropWhile (p := fun c ↦ decide (c ≠ '=')) (l := entry.toList)
    cases hrest : entry.toList.dropWhile (fun c ↦ decide (c ≠ '=')) with
    | nil =>
      rw [hrest] at h
      cases h
    | cons first rest =>
      have hfirst : first = '=' := by
        have hhead := List.head?_dropWhile_not (fun c ↦ decide (c ≠ '=')) entry.toList
        rw [hrest] at hhead
        simpa using hhead
      rw [hrest] at h hcut
      cases h
      refine ⟨?_, fun hmem ↦ ?_⟩
      · refine String.toList_inj.mp (hcut.symm.trans ?_)
        simp [String.toList_append, hfirst]
      · rw [String.toList_ofList] at hmem
        simpa using List.mem_takeWhile_imp hmem
  · rintro ⟨rfl, hkey⟩
    have hall : ∀ c ∈ key.toList, decide (c ≠ '=') = true := fun c hc ↦
      decide_eq_true fun h ↦ hkey (h ▸ hc)
    have hentry : (key ++ "=" ++ value).toList = key.toList ++ '=' :: value.toList := by
      simp [String.toList_append]
    rw [hentry, List.takeWhile_append_of_pos hall, List.dropWhile_append_of_pos hall]
    simp

/-- What stands behind a prefix. -/
theorem afterPrefix_eq_some_iff {start text rest : String} :
    afterPrefix start text = some rest ↔ text = start ++ rest := by
  unfold afterPrefix
  constructor
  · intro h
    split_ifs at h with hstart
    cases h
    obtain ⟨suffix, hsuffix⟩ := List.isPrefixOf_iff_prefix.mp hstart
    rw [← String.toList_inj, String.toList_append, String.toList_ofList, ← hsuffix, ← String.length_toList,
      List.drop_left]
  · rintro rfl
    rw [String.toList_append, if_pos (List.isPrefixOf_iff_prefix.mpr (List.prefix_append _ _)),
      ← String.length_toList, List.drop_left, String.ofList_toList]

namespace BuildConfig

/-- An entry gives build scripts a variable: its name stands behind the mark of their variables, or it is one of
the two variables of the runtime that they see.  A name ends at the first `=`. -/
inductive Gives (entry name value : String) : Prop
  | marked (hentry : entry = "STOCKADEENV_" ++ name ++ "=" ++ value) (hnone : name ≠ "")
    (hname : '=' ∉ name.toList)
  | passed (hentry : entry = name ++ "=" ++ value)
    (hname : name = "STOCKADE_ROOTFS" ∨ name = "STOCKADE_ENVIRONMENT")

theorem Gives.of_binding {entry name value : String} (h : binding entry = some (name, value)) :
    Gives entry name value := by
  unfold binding at h
  cases hsplit : splitEntry entry with
  | none =>
    rw [hsplit] at h
    cases h
  | some pair =>
    obtain ⟨key, text⟩ := pair
    obtain ⟨hentry, hkey⟩ := splitEntry_eq_some_iff.mp hsplit
    simp only [hsplit] at h
    cases hmark : afterPrefix environmentPrefix key with
    | some marked =>
      obtain rfl := afterPrefix_eq_some_iff.mp hmark
      rw [String.toList_append, List.mem_append, not_or] at hkey
      simp only [hmark] at h
      split_ifs at h with hempty
      cases h
      exact .marked hentry (mt String.isEmpty_iff.mpr hempty) hkey.2
    | none =>
      simp only [hmark] at h
      split_ifs at h with hpassed
      cases h
      exact .passed hentry (by simpa [passedVariables] using hpassed)

/-- What an entry gives is what it contributes. -/
theorem Gives.binding_eq {entry name value : String} (h : Gives entry name value) :
    binding entry = some (name, value) := by
  unfold binding
  cases h with
  | marked hentry hnone hname =>
    have hplain : '=' ∉ environmentPrefix.toList := by decide
    have hkey : '=' ∉ (environmentPrefix ++ name).toList := by
      rw [String.toList_append, List.mem_append, not_or]
      exact ⟨hplain, hname⟩
    have hsplit : splitEntry entry = some (environmentPrefix ++ name, value) :=
      splitEntry_eq_some_iff.mpr ⟨hentry, hkey⟩
    simp only [hsplit, afterPrefix_eq_some_iff.mpr rfl]
    exact if_neg (mt String.isEmpty_iff.mp hnone)
  | passed hentry hname =>
    have hkey : '=' ∉ name.toList ∧ afterPrefix environmentPrefix name = none ∧
        passedVariables.contains name = true := by
      obtain rfl | rfl := hname <;> decide
    simp only [splitEntry_eq_some_iff.mpr ⟨hentry, hkey.1⟩, hkey.2, if_true]

theorem binding_eq_some_iff {entry name value : String} :
    binding entry = some (name, value) ↔ Gives entry name value :=
  ⟨.of_binding, Gives.binding_eq⟩

/-- What an entry gives one variable. -/
def given? (name entry : String) : Option String := ((binding entry).filter (·.1 = name)).map (·.2)

theorem given?_eq_some_iff {name entry value : String} :
    given? name entry = some value ↔ Gives entry name value := by
  rw [← binding_eq_some_iff]
  simp [given?, Option.filter_eq_some_iff]

theorem given?_eq_none_iff {name entry : String} :
    given? name entry = none ↔ ∀ value, ¬Gives entry name value := by
  simp [Option.eq_none_iff_forall_ne_some, given?_eq_some_iff]

/-- Whether an entry gives build scripts any variable. -/
def IsGiving (entry : String) : Prop := ∃ name value, Gives entry name value

theorem isSome_binding_iff {entry : String} : (binding entry).isSome ↔ IsGiving entry := by
  simp [Option.isSome_iff_exists, IsGiving, binding_eq_some_iff]

instance : DecidablePred IsGiving := fun _ ↦ decidable_of_iff _ isSome_binding_iff

/-! ## Environments -/

/-- What build scripts see of a variable that no entry gives. -/
def usual? (name : String) : Option String :=
  if name = "PATH" then some searchPath else if name = "HOME" then some home else none

/-- What build scripts see of a variable: the value in the last entry that gives it, or else the usual one. -/
inductive Sees (source : List String) (name value : String) : Prop
  | given {earlier later : List String} {entry : String} (hsource : source = earlier ++ entry :: later)
    (hgives : Gives entry name value) (hlast : ∀ other ∈ later, ∀ text, ¬Gives other name text)
  | usual (hnone : ∀ entry ∈ source, ∀ text, ¬Gives entry name text) (husual : usual? name = some value)

theorem environment_append (source later : List String) :
    environment (source ++ later) = environment source ++ later.filterMap binding := by
  simp [environment, List.filterMap_append]

theorem value?_environment_nil (name : String) :
    Environment.value? name (Environment.ofBindings (environment [])) = usual? name := by
  have henvironment : environment [] = [] ++ [("PATH", searchPath)] ++ [("HOME", home)] := rfl
  have hempty : Environment.value? name (Environment.ofBindings []) = none := rfl
  rw [henvironment, Environment.value?_ofBindings_concat, Environment.value?_ofBindings_concat, hempty, usual?]
  by_cases hhome : name = "HOME"
  · simp [hhome]
  · simp [Ne.symm hhome, hhome, eq_comm]

/-- The last entry that gives a variable decides, and the usual value is for want of one. -/
theorem value?_environment (source : List String) (name : String) :
    Environment.value? name (Environment.ofBindings (environment source)) =
      (source.reverse.findSome? (given? name)).or (usual? name) := by
  induction source using List.reverseRecOn with
  | nil => exact value?_environment_nil name
  | append_singleton source entry ih =>
    rw [environment_append, List.reverse_concat, List.findSome?_cons, given?]
    cases hbinding : binding entry with
    | none =>
      rw [List.filterMap_cons_none hbinding, List.filterMap_nil, List.append_nil]
      exact ih
    | some pair =>
      obtain ⟨given, value⟩ := pair
      rw [List.filterMap_cons_some hbinding, List.filterMap_nil, Environment.value?_ofBindings_concat, ih]
      by_cases hname : given = name <;> simp [hname, Option.filter_some]

/-- What scripts see is read off the entries from behind. -/
theorem sees_iff {source : List String} {name value : String} :
    Sees source name value ↔ (source.reverse.findSome? (given? name)).or (usual? name) = some value := by
  rw [Option.or_eq_some_iff, List.findSome?_eq_some_iff, List.findSome?_eq_none_iff]
  constructor
  · rintro (⟨rfl, hgives, hlast⟩ | ⟨hnone, husual⟩)
    · refine .inl ⟨_, _, _, by rw [List.reverse_append, List.reverse_cons, List.append_assoc]; rfl,
        given?_eq_some_iff.mpr hgives, fun other hother ↦ ?_⟩
      exact given?_eq_none_iff.mpr (hlast other (List.mem_reverse.mp hother))
    · exact .inr ⟨fun entry hentry ↦ given?_eq_none_iff.mpr (hnone entry (List.mem_reverse.mp hentry)), husual⟩
  · rintro (⟨later, entry, earlier, hsource, hgiven, hlast⟩ | ⟨hnone, husual⟩)
    · have hsplit : source = earlier.reverse ++ entry :: later.reverse := by
        rw [← List.reverse_reverse source, hsource, List.reverse_append, List.reverse_cons, List.append_assoc]
        rfl
      exact .given hsplit (given?_eq_some_iff.mp hgiven)
        fun other hother ↦ given?_eq_none_iff.mp (hlast other (List.mem_reverse.mp hother))
    · exact .usual (fun entry hentry ↦ given?_eq_none_iff.mp (hnone entry (List.mem_reverse.mpr hentry))) husual

/-- Entries that give nothing make no difference. -/
theorem filterMap_binding_filter (source : List String) :
    (source.filter (IsGiving ·)).filterMap binding = source.filterMap binding := by
  rw [List.filterMap_filter]
  refine List.filterMap_congr fun entry _ ↦ ?_
  cases hbinding : binding entry with
  | none => simp
  | some pair => simp [← isSome_binding_iff, hbinding]

/-- What the scripts of a build see. -/
structure ScriptLaws (config : BuildConfig) : Prop where
  /-- They see what the entries give and what is usual, and nothing else. -/
  sees (name value : String) :
    Environment.value? name (Execution.buildVariables config) = some value ↔ Sees config.env name value
  /-- No other entry of the source makes a difference. -/
  unaffected (source : List String) (hsource : source.filter (IsGiving ·) = config.env.filter (IsGiving ·)) :
    environment source = environment config.env ∧
      ∀ who, Execution.runBuild who { config with env := source } = Execution.runBuild who config
  /-- Later entries come after the earlier ones with what they contribute by themselves. -/
  continues (later : List String) : ∃ contributed, environment later = environment [] ++ contributed ∧
    environment (config.env ++ later) = environment config.env ++ contributed

end BuildConfig

end ContainerConstruction
