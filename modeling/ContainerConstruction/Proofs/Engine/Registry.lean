import ContainerConstruction.Engine.Instances
import ContainerConstruction.Proofs.Program.Run
import Mathlib.Data.List.Induction

/-!
# Registries as tables of independent engines

A registry is the table of the latest registrations, whatever was registered before and in which order.  An
instance is made of the registration that its name has at that time, and is from then on what the
configurations meant for it have made of it: neither a later registration nor another instance has a part in
that.
-/

namespace ContainerConstruction

variable {φ μ ε : Type}

namespace Registry

/-! ## Insertion -/

/-- Insertion changes what is found under one name. -/
theorem find?_insert (registration : Registration φ μ) (registrations : List (Registration φ μ))
    (name : String) :
    (insert registration registrations).find? (·.name = name) =
      if registration.name = name then some registration else registrations.find? (·.name = name) := by
  induction registrations with
  | nil => by_cases hname : registration.name = name <;> simp [insert, hname]
  | cons other rest ih =>
    unfold insert
    by_cases hname : registration.name = name
    · rw [if_pos hname] at ih ⊢
      split_ifs with hless hsame
      · simp [hname]
      · simp [hname]
      · have hother : other.name ≠ name := fun hother ↦ hsame (hname.trans hother.symm)
        simp [hother, ih]
    · rw [if_neg hname] at ih ⊢
      split_ifs with hless hsame
      · simp [hname]
      · have hother : other.name ≠ name := hsame ▸ hname
        simp [hname, hother]
      · rw [List.find?_cons, List.find?_cons, ih]

/-- Only the registration that is inserted is new. -/
theorem mem_insert {registration found : Registration φ μ} {registrations : List (Registration φ μ)}
    (h : found ∈ insert registration registrations) : found = registration ∨ found ∈ registrations := by
  induction registrations with
  | nil => exact .inl (List.mem_singleton.mp h)
  | cons other rest ih =>
    unfold insert at h
    split_ifs at h with hless hsame
    · exact List.mem_cons.mp h
    · exact (List.mem_cons.mp h).imp_right (List.mem_cons_of_mem _)
    · obtain rfl | hrest := List.mem_cons.mp h
      · exact .inr List.mem_cons_self
      · exact (ih hrest).imp_right (List.mem_cons_of_mem _)

/-- Registrations in the order of their names, one for each name. -/
def Ascending (registrations : List (Registration φ μ)) : Prop :=
  registrations.Pairwise fun first second ↦ first.name < second.name

theorem Ascending.insert {registrations : List (Registration φ μ)} (h : Ascending registrations)
    (registration : Registration φ μ) : Ascending (Registry.insert registration registrations) := by
  induction registrations with
  | nil => exact List.pairwise_singleton _ _
  | cons other rest ih =>
    obtain ⟨hother, hrest⟩ := List.pairwise_cons.mp h
    unfold Registry.insert
    split_ifs with hless hsame
    · refine List.pairwise_cons.mpr ⟨fun found hfound ↦ ?_, h⟩
      obtain rfl | hfound := List.mem_cons.mp hfound
      · exact hless
      · exact String.lt_trans hless (hother found hfound)
    · exact List.pairwise_cons.mpr ⟨fun found hfound ↦ hsame ▸ hother found hfound, hrest⟩
    · have hgreater : other.name < registration.name :=
        Std.lt_of_le_of_ne (String.not_lt.mp hless) (Ne.symm hsame)
      refine List.pairwise_cons.mpr ⟨fun found hfound ↦ ?_, ih hrest⟩
      obtain rfl | hfound := mem_insert hfound
      · exact hgreater
      · exact hother found hfound

/-! ## Any number of registrations -/

/-- The latest registration of a name. -/
def latest? (name : String) (registered : List (Registration φ μ)) : Option (Registration φ μ) :=
  registered.reverse.find? (·.name = name)

theorem latest?_concat (name : String) (registered : List (Registration φ μ))
    (registration : Registration φ μ) :
    latest? name (registered ++ [registration]) =
      if registration.name = name then some registration else latest? name registered := by
  unfold latest?
  rw [List.reverse_concat, List.find?_cons]
  by_cases hname : registration.name = name <;> simp [hname]

def ofRegistrations (registered : List (Registration φ μ)) : Registry φ μ :=
  registered.foldl
    (fun registry registration ↦
      (registry.register registration.name registration.factory registration.methods).2)
    empty

theorem ofRegistrations_concat (registered : List (Registration φ μ)) (registration : Registration φ μ) :
    ofRegistrations (registered ++ [registration]) =
      ⟨insert registration (ofRegistrations registered).registrations⟩ := by
  unfold ofRegistrations
  rw [List.foldl_append]
  rfl

/-- The latest registration of a name is the one that is found. -/
theorem find?_ofRegistrations (registered : List (Registration φ μ)) (name : String) :
    (ofRegistrations registered).find? name = latest? name registered := by
  induction registered using List.reverseRecOn with
  | nil => rfl
  | append_singleton registered registration ih =>
    rw [ofRegistrations_concat, latest?_concat, ← ih]
    exact find?_insert registration _ name

theorem ascending_ofRegistrations (registered : List (Registration φ μ)) :
    Ascending (ofRegistrations registered).registrations := by
  induction registered using List.reverseRecOn with
  | nil => exact List.Pairwise.nil
  | append_singleton registered registration ih =>
    rw [ofRegistrations_concat]
    exact ih.insert registration

theorem lookup_eq (registry : Registry φ μ) (name : String) :
    registry.lookup name = (registry.find? name).elim (.error (notFound name)) .ok := by
  unfold lookup
  cases registry.find? name <;> rfl

/-- What is registered is what holds of the table of the latest registrations. -/
structure IsTableOf (registered : List (Registration φ μ)) (registry : Registry φ μ) : Prop where
  /-- A name leads to its latest registration, if it has one. -/
  lookup_eq (name : String) :
    registry.lookup name = (latest? name registered).elim (.error (.notFound "engine" name)) .ok
  /-- A registration gives back the one that it replaces. -/
  replaced_eq (name : String) (factory : φ) (methods : μ) :
    (registry.register name factory methods).1 = latest? name registered
  /-- No other name is affected by a registration. -/
  others (name : String) (factory : φ) (methods : μ) {other : String} (h : other ≠ name) :
    (registry.register name factory methods).2.lookup other = registry.lookup other
  ascending : registry.names.Pairwise (· < ·)
  mem_names (name : String) :
    name ∈ registry.names ↔ ∃ registration ∈ registered, registration.name = name

/-- Registrations in any order make the table of the latest ones. -/
theorem isTableOf_ofRegistrations (registered : List (Registration φ μ)) :
    IsTableOf registered (ofRegistrations registered) where
  lookup_eq name := by
    rw [lookup_eq, find?_ofRegistrations]
    rfl
  replaced_eq name factory methods := find?_ofRegistrations registered name
  others name factory methods other h := by
    have hfind : ((ofRegistrations registered).register name factory methods).2.find? other =
        (ofRegistrations registered).find? other :=
      (find?_insert ⟨name, factory, methods⟩ _ other).trans (if_neg (Ne.symm h))
    rw [lookup_eq, lookup_eq, hfind]
  ascending := List.pairwise_map.mpr (ascending_ofRegistrations registered)
  mem_names name := by
    calc
      _ ↔ ((ofRegistrations registered).find? name).isSome = true := by
        simp [names, find?, List.find?_isSome]
      _ ↔ (latest? name registered).isSome = true := by rw [find?_ofRegistrations]
      _ ↔ _ := by simp [latest?, List.find?_isSome]

end Registry

/-! ## Calls -/

/-- The registration that a call makes. -/
def EngineCall.registration? : EngineCall φ μ → Option (Registration φ μ)
  | .register name factory methods => some ⟨name, factory, methods⟩
  | _ => none

/-- What a call has an instance take over. -/
def EngineCall.configuration? (index : Nat) : EngineCall φ μ → Option (ReadText × ContainerConfig)
  | .configure other readText container => if other = index then some (readText, container) else none
  | _ => none

/-- An engine that has taken over configurations, one after the other. -/
def EngineMaker.configured (maker : EngineMaker φ ε) (configurations : List (ReadText × ContainerConfig))
    (engine : ε) : ε :=
  configurations.foldl (fun engine (readText, container) ↦ (maker.init readText container engine).2) engine

namespace EngineRoom

open Registry (IsTableOf latest? ofRegistrations)

variable (maker : EngineMaker φ ε)

def after (start : Registry φ μ) (calls : List (EngineCall φ μ)) : EngineRoom φ μ ε :=
  (machine maker).after calls (ofRegistry start)

theorem after_concat (start : Registry φ μ) (calls : List (EngineCall φ μ)) (call : EngineCall φ μ) :
    after maker start (calls ++ [call]) = ((machine maker).answer call (after maker start calls)).2 :=
  (machine maker).after_append calls [call] (ofRegistry start)

/-- Only a registration changes the registry. -/
theorem registry_answer (call : EngineCall φ μ) (room : EngineRoom φ μ ε) :
    ((machine maker).answer call room).2.registry =
      call.registration?.elim room.registry fun registration ↦
        (room.registry.register registration.name registration.factory registration.methods).2 := by
  cases call with
  | register name factory methods => rfl
  | lookUp name => rfl
  | listNames => rfl
  | instantiate name =>
    change (room.instantiate maker name).2.registry = room.registry
    unfold instantiate
    cases room.registry.lookup name <;> rfl
  | configure index readText container =>
    change (room.configure maker index readText container).2.registry = room.registry
    unfold configure
    cases room.instances[index]? <;> rfl

/-- Only registrations change the registry. -/
theorem registry_after (initial : List (Registration φ μ)) (calls : List (EngineCall φ μ)) :
    (after maker (ofRegistrations initial) calls).registry =
      ofRegistrations (initial ++ calls.filterMap EngineCall.registration?) := by
  induction calls using List.reverseRecOn with
  | nil =>
    rw [List.filterMap_nil, List.append_nil]
    rfl
  | append_singleton calls call ih =>
    rw [after_concat, registry_answer, ih, List.filterMap_append, ← List.append_assoc]
    cases hcall : call.registration? with
    | none => simp [hcall]
    | some registration =>
      rw [show [call].filterMap EngineCall.registration? = [registration] by simp [hcall],
        Registry.ofRegistrations_concat]
      rfl

/-! ## Instances -/

theorem configure_of_some {room : EngineRoom φ μ ε} {index : Nat} {engine : ε}
    (h : room.instances[index]? = some engine) (readText : ReadText) (container : ContainerConfig) :
    room.configure maker index readText container =
      (some (maker.init readText container engine).1,
        { room with instances := room.instances.set index (maker.init readText container engine).2 }) := by
  unfold configure
  rw [h]

/-- An instance is changed by the configurations that are meant for it, and by nothing else. -/
theorem instance_answer (call : EngineCall φ μ) {room : EngineRoom φ μ ε} {index : Nat} {engine : ε}
    (h : room.instances[index]? = some engine) :
    ((machine maker).answer call room).2.instances[index]? =
      some (maker.configured (call.configuration? index).toList engine) := by
  cases call with
  | register name factory methods => exact h
  | lookUp name => exact h
  | listNames => exact h
  | instantiate name =>
    change (room.instantiate maker name).2.instances[index]? = some engine
    unfold instantiate
    cases room.registry.lookup name with
    | error failure => exact h
    | ok registration =>
      obtain ⟨hindex, -⟩ := List.getElem?_eq_some_iff.mp h
      exact (List.getElem?_append_left hindex).trans h
  | configure other readText container =>
    change (room.configure maker other readText container).2.instances[index]? = _
    by_cases hindex : other = index
    · have hmeant : (EngineCall.configure other readText container : EngineCall φ μ).configuration? index =
          some (readText, container) := if_pos hindex
      subst hindex
      obtain ⟨hbound, -⟩ := List.getElem?_eq_some_iff.mp h
      rw [hmeant, configure_of_some maker h]
      exact List.getElem?_set_self hbound
    · have hmeant : (EngineCall.configure other readText container : EngineCall φ μ).configuration? index =
          none := if_neg hindex
      rw [hmeant]
      unfold configure
      cases room.instances[other]? with
      | none => exact h
      | some another => exact (List.getElem?_set_ne hindex).trans h

/-- By induction on the calls that follow. -/
theorem instance_after (later : List (EngineCall φ μ)) {room : EngineRoom φ μ ε} {index : Nat} {engine : ε}
    (h : room.instances[index]? = some engine) :
    ((machine maker).after later room).instances[index]? =
      some (maker.configured (later.filterMap (·.configuration? index)) engine) := by
  induction later generalizing room engine with
  | nil => exact h
  | cons call later ih =>
    have hrest := ih (instance_answer maker call h)
    refine Eq.trans hrest (congrArg some ?_)
    unfold EngineMaker.configured
    rw [← List.foldl_append, List.filterMap_cons]
    cases call.configuration? index <;> rfl

/-- A new instance is a fresh one of the engine that the name leads to. -/
theorem instantiate_of_ok {room : EngineRoom φ μ ε} {name : String} {registration : Registration φ μ}
    (h : room.registry.lookup name = .ok registration) :
    room.instantiate maker name =
      (.ok room.instances.length,
        { room with instances := room.instances ++ [maker.make registration.factory] }) := by
  unfold instantiate
  rw [h]

theorem instantiate_of_error {room : EngineRoom φ μ ε} {name : String} {failure : Failure}
    (h : room.registry.lookup name = .error failure) :
    room.instantiate maker name = (.error failure, room) := by
  unfold instantiate
  rw [h]

/-- A call makes no instance, or one of the engine that a name leads to. -/
theorem length_answer (call : EngineCall φ μ) (room : EngineRoom φ μ ε) :
    ((machine maker).answer call room).2.instances.length = room.instances.length ∨
      ∃ name registration, call = .instantiate name ∧ room.registry.lookup name = .ok registration ∧
        ((machine maker).answer call room).2.instances.length = room.instances.length + 1 := by
  cases call with
  | register name factory methods => exact .inl rfl
  | lookUp name => exact .inl rfl
  | listNames => exact .inl rfl
  | instantiate name =>
    cases hlookup : room.registry.lookup name with
    | error failure => exact .inl (congrArg (·.2.instances.length) (instantiate_of_error maker hlookup))
    | ok registration =>
      refine .inr ⟨name, registration, rfl, hlookup, ?_⟩
      refine (congrArg (·.2.instances.length) (instantiate_of_ok maker hlookup)).trans ?_
      exact List.length_append
  | configure index readText container =>
    refine .inl ?_
    change (room.configure maker index readText container).2.instances.length = _
    unfold configure
    cases room.instances[index]? with
    | none => rfl
    | some engine => exact List.length_set

/-- Every instance was made by a call, of the engine that its name led to. -/
theorem exists_of_lt_length (start : Registry φ μ) (calls : List (EngineCall φ μ)) {index : Nat}
    (h : index < (after maker start calls).instances.length) :
    ∃ before name later registration, calls = before ++ .instantiate name :: later ∧
      (after maker start before).instances.length = index ∧
      (after maker start before).registry.lookup name = .ok registration := by
  induction calls using List.reverseRecOn with
  | nil => exact absurd h (Nat.not_lt_zero index)
  | append_singleton calls call ih =>
    by_cases hold : index < (after maker start calls).instances.length
    · obtain ⟨before, name, later, registration, rfl, hlength, hlookup⟩ := ih hold
      exact ⟨before, name, later ++ [call], registration, by simp, hlength, hlookup⟩
    · rw [after_concat] at h
      obtain hsame | ⟨name, registration, rfl, hlookup, hmore⟩ := length_answer maker call (after maker start calls)
      · exact absurd (hsame ▸ h) hold
      · have hindex : (after maker start calls).instances.length = index := by omega
        exact ⟨calls, name, [], registration, rfl, hindex, hlookup⟩

/-! ## Laws -/

/-- What holds of a registry and its instances after calls.  The registrations made so far are those that the
registry began with and those of the calls. -/
structure RoomLaws (start : Registry φ μ) (initial : List (Registration φ μ))
    (calls : List (EngineCall φ μ)) : Prop where
  table : IsTableOf (initial ++ calls.filterMap EngineCall.registration?) (after maker start calls).registry
  /-- An instance is made of the latest registration of a name, and gets the next number. -/
  instantiated (name : String) :
    (after maker start calls).instantiate maker name =
      match latest? name (initial ++ calls.filterMap EngineCall.registration?) with
      | none => (.error (.notFound "engine" name), after maker start calls)
      | some registration =>
        (.ok (after maker start calls).instances.length,
          { after maker start calls with
            instances := (after maker start calls).instances ++ [maker.make registration.factory] })
  /-- An instance takes over a configuration as its engine does. -/
  configured {index : Nat} {engine : ε} (h : (after maker start calls).instances[index]? = some engine)
    (readText : ReadText) (container : ContainerConfig) :
    (after maker start calls).configure maker index readText container =
      (some (maker.init readText container engine).1,
        { after maker start calls with
          instances := (after maker start calls).instances.set index (maker.init readText container engine).2 })
  /-- A call that is not meant for an instance leaves it as it is. -/
  isolated (call : EngineCall φ μ) {index : Nat} {engine : ε} (hcall : call.configuration? index = none)
    (h : (after maker start calls).instances[index]? = some engine) :
    ((machine maker).answer call (after maker start calls)).2.instances[index]? = some engine
  /-- An instance is what the configurations meant for it have made of the engine that its name led to when it
  was made. -/
  made {before later : List (EngineCall φ μ)} {name : String} {registration : Registration φ μ}
    (hcalls : calls = before ++ .instantiate name :: later)
    (h : latest? name (initial ++ before.filterMap EngineCall.registration?) = some registration) :
    let index := (after maker start before).instances.length
    (after maker start calls).instances[index]? =
      some (maker.configured (later.filterMap (·.configuration? index)) (maker.make registration.factory))
  /-- There are no other instances. -/
  origin {index : Nat} (h : index < (after maker start calls).instances.length) :
    ∃ before name later registration, calls = before ++ .instantiate name :: later ∧
      (after maker start before).instances.length = index ∧
      latest? name (initial ++ before.filterMap EngineCall.registration?) = some registration

theorem isTableOf_after (initial : List (Registration φ μ)) (calls : List (EngineCall φ μ)) :
    IsTableOf (initial ++ calls.filterMap EngineCall.registration?)
      (after maker (ofRegistrations initial) calls).registry := by
  rw [registry_after]
  exact Registry.isTableOf_ofRegistrations _

theorem roomLaws (initial : List (Registration φ μ)) (calls : List (EngineCall φ μ)) :
    RoomLaws maker (ofRegistrations initial) initial calls where
  table := isTableOf_after maker initial calls
  instantiated name := by
    have hlookup := (isTableOf_after maker initial calls).lookup_eq name
    split
    · next hlatest =>
      rw [hlatest] at hlookup
      exact instantiate_of_error maker hlookup
    · next registration hlatest =>
      rw [hlatest] at hlookup
      exact instantiate_of_ok maker hlookup
  configured h readText container := configure_of_some maker h readText container
  isolated call index engine hcall h := by
    have hnext := instance_answer maker call h
    rw [hcall] at hnext
    exact hnext
  made {before later name registration} hcalls h := by
    intro index
    let room := after maker (ofRegistrations initial) before
    have hlookup : room.registry.lookup name = .ok registration := by
      rw [(isTableOf_after maker initial before).lookup_eq, h]
      rfl
    have hnew : ((machine maker).answer (.instantiate name) room).2.instances[room.instances.length]? =
        some (maker.make registration.factory) := by
      change (room.instantiate maker name).2.instances[_]? = _
      rw [instantiate_of_ok maker hlookup]
      exact List.getElem?_concat_length
    have hafter : after maker (ofRegistrations initial) calls =
        (machine maker).after later ((machine maker).answer (.instantiate name) room).2 := by
      rw [hcalls]
      exact (machine maker).after_append before _ _
    rw [hafter]
    exact instance_after maker later hnew
  origin {index} h := by
    obtain ⟨before, name, later, registration, hcalls, hlength, hlookup⟩ :=
      exists_of_lt_length maker (ofRegistrations initial) calls h
    refine ⟨before, name, later, registration, hcalls, hlength, ?_⟩
    rw [(isTableOf_after maker initial before).lookup_eq] at hlookup
    cases hlatest : latest? name (initial ++ before.filterMap EngineCall.registration?) with
    | none => simp [hlatest] at hlookup
    | some found => simpa [hlatest] using hlookup

/-- A registry and its instances are a table of the latest registrations and engines that do not affect each
other.  The registry may begin with any registrations: with none, it is the empty one, and with those of the
three engines the one that has them. -/
theorem registry_laws :
    (∀ {φ μ ε : Type} (maker : EngineMaker φ ε) (initial : List (Registration φ μ))
      (calls : List (EngineCall φ μ)), RoomLaws maker (ofRegistrations initial) initial calls) ∧
      (∀ {φ μ : Type}, ofRegistrations [] = (.empty : Registry φ μ)) ∧
      ∀ {μ : Type} (methods : μ),
        ofRegistrations (EngineKind.all.map fun kind ↦ ⟨kind.name, kind, methods⟩) = .builtin methods :=
  ⟨roomLaws, rfl, fun _ ↦ rfl⟩

/-- Of two instances of an engine the one that is configured alone changes. -/
example (readText : ReadText) :
    let container := ⟨"standard", "", .shared, none, .object [("args", .strings ["/bin/true"])]⟩
    (after Engine.maker (.builtin ()) [.instantiate "standard", .instantiate "standard",
      .configure 0 readText container]).instances =
        [.standard ⟨["/bin/true"], [], none⟩ none, .fresh .standard] := rfl

end EngineRoom

end ContainerConstruction
