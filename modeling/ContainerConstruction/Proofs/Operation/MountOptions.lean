import ContainerConstruction.Operation.Mount
import ContainerConstruction.Proofs.Operation.Membership
import Mathlib

/-!
# Mount options

Each name of a mount option stands for one bit, and `MountFlags.numbers` tells which.  A list of names comes to the
mask of their bits, so that neither order nor repetition matters.  Only what is told of unknown names depends on the
order: it is the first of them.

A mount is asked for once or not at all, and the flags it is asked for with are told bit by bit.
`MountArgs.performWithin` has the bits with a meaning as a parameter, since nothing said here depends on them.
-/

namespace ContainerConstruction

open Program (Runs)

namespace MountFlags

/-! ## Bits -/

def Has (flags : UInt64) (bit : Nat) : Prop := flags.toBitVec.getLsbD bit = true

theorem not_has_zero (bit : Nat) : ¬Has 0 bit := by
  simp [Has]

theorem has_or {first second : UInt64} {bit : Nat} :
    Has (first ||| second) bit ↔ Has first bit ∨ Has second bit := by
  simp [Has]

theorem has_and {first second : UInt64} {bit : Nat} :
    Has (first &&& second) bit ↔ Has first bit ∧ Has second bit := by
  simp [Has]

theorem has_ofNat_two_pow {number bit : Nat} (h : number < 64) :
    Has (UInt64.ofNat (2 ^ number)) bit ↔ bit = number := by
  simp only [Has, UInt64.toBitVec_ofNat', BitVec.getLsbD_ofNat, Nat.testBit_two_pow, Bool.and_eq_true,
    decide_eq_true_eq]
  omega

/-- Flags are equal if they have the same bits. -/
theorem eq_of_has_iff {first second : UInt64} (h : ∀ bit, Has first bit ↔ Has second bit) : first = second := by
  refine UInt64.toBitVec_inj.mp (BitVec.eq_of_getLsbD_eq fun bit _ ↦ ?_)
  exact Bool.eq_iff_iff.mpr (h bit)

/-! ## Names -/

/-- The bit that each name stands for. -/
def numbers : List (String × Nat) :=
  [("ro", 0), ("nosuid", 1), ("nodev", 2), ("noexec", 3), ("remount", 5), ("bind", 12), ("rec", 14),
    ("move", 13), ("private", 18), ("slave", 19), ("shared", 20), ("unbindable", 17), ("relatime", 21),
    ("strictatime", 24)]

/-- Whether a name stands for a bit. -/
def IsName (name : String) : Prop := ∃ bit, (name, bit) ∈ numbers

theorem names_eq : names = numbers.map fun (name, bit) ↦ (name, UInt64.ofNat (2 ^ bit)) := by decide

variable {name : String} {bit : Nat}

theorem number_lt (h : (name, bit) ∈ numbers) : bit < 64 := by
  have hall : ∀ entry ∈ numbers, entry.2 < 64 := by decide
  exact hall _ h

/-- A name stands for one bit. -/
theorem number_unique {other : Nat} (h : (name, bit) ∈ numbers) (hother : (name, other) ∈ numbers) :
    bit = other := by
  have hall : ∀ entry ∈ numbers, ∀ other ∈ numbers, entry.1 = other.1 → entry.2 = other.2 := by decide
  exact hall _ h _ hother rfl

/-- A bit has one name. -/
theorem name_unique {other : String} (h : (name, bit) ∈ numbers) (hother : (other, bit) ∈ numbers) :
    name = other := by
  have hall : ∀ entry ∈ numbers, ∀ other ∈ numbers, entry.2 = other.2 → entry.1 = other.1 := by decide
  exact hall _ h _ hother rfl

theorem has_known (h : (name, bit) ∈ numbers) : Has known bit := by
  have hall : ∀ entry ∈ numbers, known.toBitVec.getLsbD entry.2 = true := by decide
  exact hall _ h

theorem find?_names (name : String) : names.find? (·.1 = name) =
    (numbers.find? (·.1 = name)).map fun (name, bit) ↦ (name, UInt64.ofNat (2 ^ bit)) := by
  rw [names_eq, List.find?_map]
  rfl

theorem ofName_of_mem (h : (name, bit) ∈ numbers) : ofName name = .ok (UInt64.ofNat (2 ^ bit)) := by
  cases hfound : numbers.find? (·.1 = name) with
  | none =>
    have hdiffers := List.find?_eq_none.mp hfound _ h
    simp at hdiffers
  | some entry =>
    obtain ⟨found, number⟩ := entry
    obtain rfl : found = name := by simpa using List.find?_some hfound
    rw [ofName, find?_names, hfound, number_unique h (List.mem_of_find?_eq_some hfound)]
    rfl

def unknownName (name : String) : Failure := .config s!"unknown mount flag: {name}"

/-- A name that stands for no bit is refused by itself. -/
theorem ofName_of_not_isName (h : ¬IsName name) : ofName name = .error (unknownName name) := by
  have hnone : numbers.find? (·.1 = name) = none := by
    refine List.find?_eq_none.mpr fun entry hentry hname ↦ h ⟨entry.2, ?_⟩
    rw [← of_decide_eq_true hname]
    exact hentry
  rw [ofName, find?_names, hnone]
  rfl

/-! ## Lists of names -/

/-- Whether a mask has the bits of the names in a list, and no others. -/
def Masks (options : List String) (mask : UInt64) : Prop :=
  ∀ bit, Has mask bit ↔ ∃ name ∈ options, (name, bit) ∈ numbers

/-- Whether a name is the first unknown one of a list. -/
def FirstUnknown (options : List String) (name : String) : Prop :=
  ∃ known rest, options = known ++ name :: rest ∧ (∀ earlier ∈ known, IsName earlier) ∧ ¬IsName name

variable {options others : List String} {mask : UInt64}

/-- There is one mask of a list. -/
theorem Masks.unique {other : UInt64} (h : Masks options mask) (hother : Masks options other) : mask = other :=
  eq_of_has_iff fun bit ↦ (h bit).trans (hother bit).symm

/-- In a mask of names, the bit of each name says whether it is there. -/
theorem Masks.has_iff (h : Masks options mask) (hname : (name, bit) ∈ numbers) : Has mask bit ↔ name ∈ options := by
  constructor
  · intro hbit
    obtain ⟨other, hother, hnumber⟩ := (h bit).mp hbit
    rwa [name_unique hname hnumber]
  · exact fun hmem ↦ (h bit).mpr ⟨name, hmem, hname⟩

theorem masks_nil : Masks [] 0 := fun bit ↦ by simp [not_has_zero]

/-- One more name adds its bit, whether it was there already or not. -/
theorem Masks.cons (h : Masks options mask) (hname : (name, bit) ∈ numbers) :
    Masks (name :: options) (UInt64.ofNat (2 ^ bit) ||| mask) := by
  intro other
  rw [has_or, has_ofNat_two_pow (number_lt hname), h other]
  constructor
  · rintro (rfl | ⟨earlier, hearlier, hnumber⟩)
    · exact ⟨name, List.mem_cons_self, hname⟩
    · exact ⟨earlier, List.mem_cons_of_mem _ hearlier, hnumber⟩
  · rintro ⟨earlier, hearlier, hnumber⟩
    obtain rfl | hearlier := List.mem_cons.mp hearlier
    · exact .inl (number_unique hnumber hname)
    · exact .inr ⟨earlier, hearlier, hnumber⟩

theorem ofNames_cons_of_mem (h : (name, bit) ∈ numbers) :
    ofNames (name :: options) = (ofNames options).map (UInt64.ofNat (2 ^ bit) ||| ·) := by
  rw [ofNames, ofName_of_mem h]

theorem ofNames_cons_of_not_isName (h : ¬IsName name) : ofNames (name :: options) = .error (unknownName name) := by
  rw [ofNames, ofName_of_not_isName h]

/-- Names that are all known come to their mask. -/
theorem exists_masks (h : ∀ name ∈ options, IsName name) :
    ∃ mask, ofNames options = .ok mask ∧ Masks options mask := by
  induction options with
  | nil => exact ⟨0, rfl, masks_nil⟩
  | cons name rest ih =>
    obtain ⟨⟨bit, hname⟩, hrest⟩ := List.forall_mem_cons.mp h
    obtain ⟨mask, hmask, hmasks⟩ := ih hrest
    refine ⟨_, ?_, hmasks.cons hname⟩
    rw [ofNames_cons_of_mem hname, hmask, Except.map]

/-- The first unknown name is the one that is told. -/
theorem ofNames_of_firstUnknown (h : FirstUnknown options name) : ofNames options = .error (unknownName name) := by
  obtain ⟨known, rest, rfl, hknown, hname⟩ := h
  induction known with
  | nil => exact ofNames_cons_of_not_isName hname
  | cons earlier known ih =>
    obtain ⟨⟨bit, hearlier⟩, hknown⟩ := List.forall_mem_cons.mp hknown
    rw [List.cons_append, ofNames_cons_of_mem hearlier, ih hknown, Except.map]

theorem exists_firstUnknown (h : ¬∀ name ∈ options, IsName name) : ∃ name, FirstUnknown options name := by
  induction options with
  | nil => exact absurd (List.forall_mem_nil _) h
  | cons name rest ih =>
    by_cases hname : IsName name
    · obtain ⟨unknown, known, later, rfl, hknown, hunknown⟩ :=
        ih fun hrest ↦ h (List.forall_mem_cons.mpr ⟨hname, hrest⟩)
      exact ⟨unknown, name :: known, later, rfl, List.forall_mem_cons.mpr ⟨hname, hknown⟩, hunknown⟩
    · exact ⟨name, [], rest, rfl, List.forall_mem_nil _, hname⟩

/-- A list is accepted if all its names are known, and gives its mask. -/
theorem ofNames_eq_ok_iff : ofNames options = .ok mask ↔ (∀ name ∈ options, IsName name) ∧ Masks options mask := by
  constructor
  · intro h
    by_cases hnames : ∀ name ∈ options, IsName name
    · obtain ⟨other, hother, hmasks⟩ := exists_masks hnames
      cases h.symm.trans hother
      exact ⟨hnames, hmasks⟩
    · obtain ⟨name, hname⟩ := exists_firstUnknown hnames
      cases h.symm.trans (ofNames_of_firstUnknown hname)
  · rintro ⟨hnames, hmasks⟩
    obtain ⟨other, hother, hothers⟩ := exists_masks hnames
    rw [hother, hmasks.unique hothers]

/-- A list is refused for its first unknown name. -/
theorem ofNames_eq_error_iff {failure : Failure} :
    ofNames options = .error failure ↔ ∃ name, FirstUnknown options name ∧ failure = unknownName name := by
  constructor
  · intro h
    have hnames : ¬∀ name ∈ options, IsName name := fun hnames ↦ by
      obtain ⟨mask, hmask, -⟩ := exists_masks hnames
      cases h.symm.trans hmask
    obtain ⟨name, hname⟩ := exists_firstUnknown hnames
    cases h.symm.trans (ofNames_of_firstUnknown hname)
    exact ⟨name, hname, rfl⟩
  · rintro ⟨name, hname, rfl⟩
    exact ofNames_of_firstUnknown hname

/-- Neither the order of the names nor their repetition matters. -/
theorem masks_congr (h : ∀ name, name ∈ options ↔ name ∈ others) : Masks options mask ↔ Masks others mask := by
  simp only [Masks, h]

theorem ofNames_append (options others : List String) : ofNames (options ++ others) =
    (ofNames options).bind fun mask ↦ (ofNames others).map (mask ||| ·) := by
  induction options with
  | nil => cases hothers : ofNames others <;> simp [ofNames, Except.bind, Except.map, hothers]
  | cons name rest ih =>
    rw [List.cons_append, ofNames, ofNames, ih]
    cases ofName name with
    | error failure => rfl
    | ok flag =>
      cases ofNames rest with
      | error failure => rfl
      | ok mask => cases ofNames others <;> simp [Except.bind, Except.map, UInt64.or_assoc]

/-- What a list of option names comes to. -/
structure OptionLaws (options : List String) : Prop where
  /-- A list is accepted if and only if every name in it is known. -/
  accepted : (∃ mask, ofNames options = .ok mask) ↔ ∀ name ∈ options, IsName name
  /-- Its mask has the bits of the names in the list, and of no others. -/
  masked {mask : UInt64} (h : ofNames options = .ok mask) : Masks options mask ∧
    ∀ name bit, (name, bit) ∈ numbers → (Has mask bit ↔ name ∈ options)
  /-- Another list of the same names comes to the same mask, in whatever order and however often they are there. -/
  unordered {others : List String} (h : ∀ name, name ∈ options ↔ name ∈ others) (mask : UInt64) :
    ofNames options = .ok mask ↔ ofNames others = .ok mask
  /-- Two lists one after the other come to both masks together, or to the failure of the first that fails. -/
  appended (others : List String) : ofNames (options ++ others) =
    (ofNames options).bind fun mask ↦ (ofNames others).map (mask ||| ·)
  /-- A list that is not accepted is told its first unknown name. -/
  refused (failure : Failure) :
    ofNames options = .error failure ↔ ∃ name, FirstUnknown options name ∧ failure = unknownName name

theorem optionLaws (options : List String) : OptionLaws options where
  accepted := by
    constructor
    · rintro ⟨mask, hmask⟩
      exact (ofNames_eq_ok_iff.mp hmask).1
    · intro hnames
      obtain ⟨mask, hmask, -⟩ := exists_masks hnames
      exact ⟨mask, hmask⟩
  masked h := by
    obtain ⟨-, hmasks⟩ := ofNames_eq_ok_iff.mp h
    exact ⟨hmasks, fun name bit hname ↦ hmasks.has_iff hname⟩
  unordered h mask := by
    rw [ofNames_eq_ok_iff, ofNames_eq_ok_iff, masks_congr h]
    simp only [h]
  appended := ofNames_append options
  refused failure := ofNames_eq_error_iff

end MountFlags

/-! ## Mounting -/

namespace MountArgs

open MountFlags (FirstUnknown Has IsName OptionLaws numbers ofNames unknownName)

/-- Mounts what is asked for, if `known` are the bits with a meaning. -/
def performWithin (known : UInt64) (args : MountArgs) : Operation Unit := do
  let options ← Operation.ofResult (ofNames args.options)
  let answer ← Operation.ask (.mount (nonEmpty args.source) args.target (nonEmpty args.filesystem)
    ((args.flags ||| options) &&& known) (nonEmpty args.data))
  Operation.check (fun errno ↦ .mount args.source args.target errno.namedText) answer

theorem perform_eq (args : MountArgs) : args.perform = args.performWithin MountFlags.known := rfl

/-- The call that asks for a mount with the given flags. -/
def call (args : MountArgs) (flags : UInt64) : KernelCall :=
  .mount (nonEmpty args.source) args.target (nonEmpty args.filesystem) flags (nonEmpty args.data)

theorem nonEmpty_eq (text : String) : nonEmpty text = if text = "" then none else some text := by
  simp [nonEmpty, String.isEmpty_iff]

variable {σ : Type}

/-- What comes of a mount request if `known` are the bits with a meaning. -/
structure MountLaws (known : UInt64) (args : MountArgs) (machine : Machine Kernel σ) (state : σ) : Prop where
  /-- Empty texts are left out of the call. -/
  called (flags : UInt64) : args.call flags = .mount (if args.source = "" then none else some args.source)
    args.target (if args.filesystem = "" then none else some args.filesystem) flags
    (if args.data = "" then none else some args.data)
  /-- With an unknown option nothing is asked for. -/
  refused {name : String} (h : FirstUnknown args.options name) :
    Runs machine (args.performWithin known).run state [] (.returned (.error (unknownName name))) state
  /-- Otherwise a mount is asked for once.  A refusal is told with the source and the target of the request. -/
  asked (h : ∀ name ∈ args.options, IsName name) : ∃ (flags : UInt64) (answer : Except Errno Unit) (after : σ),
    (∀ bit, Has flags bit ↔
      (Has args.flags bit ∨ ∃ name ∈ args.options, (name, bit) ∈ numbers) ∧ Has known bit) ∧
    machine.answer (args.call flags) state = (answer, after) ∧
    Runs machine (args.performWithin known).run state [⟨args.call flags, answer⟩]
      (.returned (answer.mapError fun errno ↦ .mount args.source args.target errno.namedText)) after

theorem mountLaws (known : UInt64) (args : MountArgs) (machine : Machine Kernel σ) (state : σ) :
    MountLaws known args machine state where
  called flags := by simp only [call, nonEmpty_eq]
  refused {name} h := by
    have hnames := MountFlags.ofNames_of_firstUnknown h
    unfold performWithin
    rw [hnames]
    exact (Program.runs_throw machine _ state).bind_error _
  asked h := by
    obtain ⟨options, hnames, hmasks⟩ := MountFlags.exists_masks h
    obtain ⟨answer, after, hanswer⟩ : ∃ answer after,
      machine.answer (args.call ((args.flags ||| options) &&& known)) state = (answer, after) := ⟨_, _, rfl⟩
    refine ⟨(args.flags ||| options) &&& known, answer, after, fun bit ↦ ?_, hanswer, ?_⟩
    · rw [MountFlags.has_and, MountFlags.has_or, hmasks bit]
    · unfold performWithin
      rw [hnames]
      refine (Program.runs_pure machine options state).bind_ok ((Program.runs_ask hanswer).bind_ok_quiet ?_)
      cases answer with
      | ok mounted => exact Program.runs_pure machine mounted after
      | error errno => exact Program.runs_throw machine _ after

/-- Option names come to the mask of their bits, whatever their order, or the first unknown one is told.  A mount is
asked for once, with the bits of its flags and options that have a meaning, but not if an option is unknown. -/
theorem mount_laws : (∀ options, OptionLaws options) ∧
    (∀ args : MountArgs, args.perform = args.performWithin MountFlags.known) ∧
    (∀ name bit, (name, bit) ∈ numbers → Has MountFlags.known bit) ∧
    ∀ (known : UInt64) (args : MountArgs) {σ : Type} (machine : Machine Kernel σ) (state : σ),
      MountLaws known args machine state :=
  ⟨MountFlags.optionLaws, perform_eq, fun _ _ ↦ MountFlags.has_known,
    fun known args _ ↦ mountLaws known args⟩

end MountArgs

end ContainerConstruction
