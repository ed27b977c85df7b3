import ContainerConstruction.Proofs.Program.Meets
import ContainerConstruction.Server.HostTraffic

/-!
# What operations do not do

Two kinds of calls decide whose rights an image is opened with: the ones that ask for an id, and the ones that
open the image.  Each operation is told here once, with the calls that it never makes and with the only failure
of configuration that it can end with.

Such a failure is found before anything is asked of the kernel.  `Request.defect?` is what a request is refused
for.
-/

namespace ContainerConstruction

variable {α β ε : Type}

namespace KernelCall

/-- Whether a call asks for an id. -/
def asksId : KernelCall → Bool
  | setFsUid _ | setFsGid _ => true
  | _ => false

/-- Whether a call opens an image, or takes over one that is open. -/
def opensImage : KernelCall → Bool
  | checkDescriptor _ | openImage .. => true
  | _ => false

/-- Whether a call concerns the rights that an image is opened with. -/
def isGuarded (call : KernelCall) : Bool := call.asksId || call.opensImage

theorem asksId_of_isGuarded {call : KernelCall} (h : call.isGuarded = false) : call.asksId = false :=
  (Bool.or_eq_false_iff.mp h).1

theorem opensImage_of_isGuarded {call : KernelCall} (h : call.isGuarded = false) : call.opensImage = false :=
  (Bool.or_eq_false_iff.mp h).2

end KernelCall

/-! ## Failures of configuration -/

def errorOf? (result : Except ε α) : Option ε :=
  match result with
  | .ok _ => none
  | .error error => some error

theorem errorOf?_eq_some {result : Except ε α} {error : ε} :
    errorOf? result = some error ↔ result = .error error := by
  cases result with
  | ok value => exact ⟨nofun, nofun⟩
  | error other => exact ⟨fun h ↦ congrArg Except.error (Option.some.inj h), fun h ↦ by cases h; rfl⟩

/-- A failure of configuration is the given defect. -/
def Blames (defect : Option Failure) (result : Except Failure α) : Prop :=
  ∀ failure, result = .error failure → failure.kind = .config → defect = some failure

theorem blames_ok (defect : Option Failure) (value : α) : Blames defect (.ok value : Except Failure α) := nofun

theorem blames_of_kind {defect : Option Failure} {failure : Failure} (h : failure.kind ≠ .config) :
    Blames defect (.error failure : Except Failure α) := by
  intro other hother hkind
  cases hother
  exact absurd hkind h

theorem blames_errorOf? (result : Except Failure α) : Blames (errorOf? result) result := by
  intro failure hfailure _
  rw [hfailure]
  rfl

theorem Blames.of_error {defect : Option Failure} {failure : Failure}
    (h : Blames defect (.error failure : Except Failure α)) :
    Blames defect (.error failure : Except Failure β) := by
  intro other hother hkind
  cases hother
  exact h failure rfl hkind

namespace Operation

/-! ## Confined operations -/

/-- Whatever the kernel answers, an operation makes no forbidden call and returns, and it fails for the given
defect of the configuration only. -/
def Confined (forbidden : KernelCall → Bool) (defect : Option Failure) (operation : Operation α) : Prop :=
  Program.Meets (I := Kernel) forbidden (Blames defect) operation.run

variable {forbidden : KernelCall → Bool} {defect : Option Failure}

/-- An operation that keeps clear of some calls keeps clear of fewer calls too. -/
theorem Confined.allow {fewer : KernelCall → Bool} {operation : Operation α}
    (h : operation.Confined forbidden defect) (hfewer : ∀ call, forbidden call = false → fewer call = false) :
    operation.Confined fewer defect :=
  Program.Meets.allow h hfewer

theorem confined_pure (value : α) : Confined forbidden defect (pure value) := blames_ok defect value

theorem confined_throw {failure : Failure} (h : failure.kind ≠ .config) :
    Confined forbidden defect (throw failure : Operation α) := blames_of_kind h

theorem confined_ask {call : KernelCall} (h : forbidden call = false) : Confined forbidden defect (ask call) :=
  ⟨h, fun _ ↦ nofun⟩

theorem Confined.bind {operation : Operation α} {next : α → Operation β}
    (h : operation.Confined forbidden defect) (hnext : ∀ value, (next value).Confined forbidden defect) :
    Confined forbidden defect (operation >>= next) := by
  apply Program.Meets.bind h
  intro result hresult
  cases result with
  | ok value => exact hnext value
  | error failure => exact hresult.of_error

/-- Going on after a program that has no failures of its own. -/
theorem confined_lift_bind {post : α → Prop} {program : Program Kernel α} {next : α → Operation β}
    (h : program.Meets forbidden post) (hnext : ∀ value, post value → (next value).Confined forbidden defect) :
    Confined forbidden defect (ExceptT.lift program >>= next) := by
  have hlift : Program.Meets (I := Kernel) forbidden
      (fun result : Except Failure α ↦ ∃ value, result = .ok value ∧ post value) (ExceptT.lift program).run :=
    Program.Meets.bind h fun value hvalue ↦ ⟨value, rfl, hvalue⟩
  apply Program.Meets.bind hlift
  rintro result ⟨value, rfl, hvalue⟩
  exact hnext value hvalue

theorem confined_ite {condition : Prop} [Decidable condition] {first second : Operation α}
    (hfirst : first.Confined forbidden defect) (hsecond : second.Confined forbidden defect) :
    Confined forbidden defect (if condition then first else second) := by
  split
  · exact hfirst
  · exact hsecond

theorem confined_check {describe : ε → Failure} (h : ∀ error, (describe error).kind ≠ .config)
    (answer : Except ε α) : Confined forbidden defect (check describe answer) := by
  cases answer with
  | ok value => exact confined_pure value
  | error error => exact confined_throw (h error)

/-- Asking, with an error of the answer as a failure. -/
theorem confined_ask_check {call : KernelCall} {describe : ε → Failure} {read : call.Answer → Except ε α}
    (hcall : forbidden call = false) (h : ∀ error, (describe error).kind ≠ .config) :
    Confined forbidden defect (ask call >>= fun answer ↦ check describe (read answer)) :=
  (confined_ask hcall).bind fun _ ↦ confined_check h _

theorem confined_ofResult {result : Except Failure α} (h : Blames defect result) :
    Confined forbidden defect (ofResult result) := by
  cases result with
  | ok value => exact confined_pure value
  | error failure => exact h

end Operation

open KernelCall (isGuarded asksId opensImage)
open Operation (confined_pure confined_throw confined_ask confined_ask_check confined_check confined_ite
  confined_lift_bind confined_ofResult)

/-! ## Operations on files and names -/

/-- What is wrong with the options of a mount. -/
def MountArgs.defect? (args : MountArgs) : Option Failure := errorOf? (MountFlags.ofNames args.options)

theorem MountArgs.perform_confined (args : MountArgs) : args.perform.Confined isGuarded args.defect? :=
  (confined_ofResult (blames_errorOf? _)).bind fun _ ↦ confined_ask_check rfl nofun

variable {defect : Option Failure}

theorem MkdirArgs.perform_confined (args : MkdirArgs) : args.perform.Confined isGuarded defect :=
  (confined_ask rfl).bind fun _ ↦ (confined_ask rfl).bind fun _ ↦ (confined_ask rfl).bind fun _ ↦
    confined_check nofun _

theorem ChdirArgs.perform_confined (args : ChdirArgs) : args.perform.Confined isGuarded defect :=
  confined_ask_check rfl nofun

theorem HostnameArgs.perform_confined (args : HostnameArgs) :
    args.perform.Confined isGuarded (defect? args.hostname) := by
  unfold perform
  cases defect? args.hostname with
  | some failure =>
    intro other hother _
    cases hother
    rfl
  | none => exact confined_ask_check rfl nofun

namespace ChrootArgs

theorem enterRoot_confined (root : String) : (enterRoot root).Confined isGuarded defect := by
  unfold enterRoot
  apply confined_ite
  · exact (confined_ask rfl).bind fun _ ↦ confined_pure _
  · exact (confined_ask rfl).bind fun _ ↦ (confined_check nofun _).bind fun _ ↦ confined_pure _

theorem enterAsRoot_confined : enterAsRoot.Confined isGuarded defect := confined_ask_check rfl nofun

theorem pivot_confined (root : String) : (pivot root).Confined isGuarded defect :=
  (confined_ask rfl).bind fun _ ↦ (confined_check nofun _).bind fun _ ↦
    (confined_ask rfl).bind fun _ ↦ (confined_check nofun _).bind fun _ ↦
    (confined_ask rfl).bind fun _ ↦ (confined_check nofun _).bind fun _ ↦
    (confined_ask rfl).bind fun _ ↦ (confined_check nofun _).bind fun _ ↦
    confined_ask_check rfl nofun

theorem moveRoot_confined (root : String) : (moveRoot root).Confined isGuarded defect :=
  (confined_ask rfl).bind fun _ ↦ (confined_check nofun _).bind fun _ ↦ enterAsRoot_confined

/-- A root switch asks for no id and opens no image. -/
theorem perform_confined (args : ChrootArgs) : args.perform.Confined isGuarded defect := by
  have henter (_ : Unit) : Operation.Confined isGuarded defect
      (do checkStep "chdir /" (← Operation.ask (.changeDirectory "/"))) := confined_ask_check rfl nofun
  unfold perform
  apply (enterRoot_confined args.root).bind
  intro root
  cases args.method with
  | pivot => exact (pivot_confined root).bind henter
  | move => exact (moveRoot_confined root).bind henter
  | chroot => exact enterAsRoot_confined.bind henter

end ChrootArgs

/-! ## Loop devices -/

namespace LoopDevice

theorem ensureNode_confined (index : Nat) : (ensureNode index).Confined isGuarded defect := by
  unfold ensureNode
  apply (confined_ask rfl).bind
  intro isThere
  apply confined_ite (confined_pure ())
  apply (confined_ask rfl).bind
  intro answer
  cases answer with
  | ok made => exact confined_pure ()
  | error errno => exact confined_ite (confined_pure ()) (confined_throw nofun)

theorem attachTo_confined (image : Descriptor) (writable : Bool) (setup : LoopSetup) (index : Nat) :
    (attachTo image writable setup index).Confined isGuarded defect := by
  unfold attachTo
  apply (ensureNode_confined index).bind
  intro _
  apply (confined_ask rfl).bind
  intro opened
  cases opened with
  | error cause => exact confined_ite (confined_pure false) (confined_throw nofun)
  | ok device =>
    apply (confined_ask rfl).bind
    intro bound
    cases bound with
    | error errno => exact confined_ite (confined_pure false) (confined_throw nofun)
    | ok _ =>
      apply (confined_ask rfl).bind
      intro configured
      cases configured with
      | ok _ => exact confined_pure true
      | error errno => exact (confined_ask rfl).bind fun _ ↦ confined_throw nofun

theorem scan_confined (image : Descriptor) (writable : Bool) (setup : LoopSetup) (count index : Nat) :
    (scan image writable setup count index).Confined isGuarded defect := by
  induction count generalizing index with
  | zero => exact confined_pure none
  | succ count ih =>
    apply (attachTo_confined image writable setup index).bind
    intro isFree
    exact confined_ite (confined_pure (some index)) (ih (index + 1))

theorem findHolding_confined (image : FileIdentity) (info : LoopInfo) (count index : Nat) :
    (findHolding image info count index).Confined isGuarded defect := by
  induction count generalizing index with
  | zero => exact confined_pure none
  | succ count ih =>
    apply (confined_ask rfl).bind
    intro opened
    cases opened with
    | error cause => exact ih (index + 1)
    | ok device =>
      apply (confined_ask rfl).bind
      intro asked
      cases asked with
      | error errno => exact ih (index + 1)
      | ok status => exact confined_ite (confined_pure (some index)) (ih (index + 1))

theorem attach_confined (args : LoopArgs) (image : Descriptor) (name : String) :
    (attach args image name).Confined isGuarded defect := by
  have hshared : (findShared args image).Confined isGuarded defect := by
    unfold findShared
    apply confined_ite
    · exact (confined_ask rfl).bind fun _ ↦ (confined_check nofun _).bind fun _ ↦
        findHolding_confined _ _ _ _
    · exact confined_pure none
  apply hshared.bind
  intro found
  cases found with
  | some index => exact confined_pure index
  | none =>
    apply (scan_confined _ _ _ _ _).bind
    intro free
    cases free with
    | some index => exact confined_pure index
    | none => exact confined_throw nofun

end LoopDevice

/-! ## Brackets -/

/-- Opening an image asks for no id. -/
theorem ImageSource.openImage_confined (mode : Int32) (source : ImageSource) :
    (source.openImage mode).Confined asksId defect := by
  cases source with
  | inherited number =>
    exact (confined_ask rfl).bind fun _ ↦ (confined_check nofun _).bind fun _ ↦ confined_pure _
  | path file => exact confined_ask_check rfl nofun

namespace FsIdentity

theorem current_confined : current.Confined opensImage defect :=
  (confined_ask rfl).bind fun _ ↦ (confined_ask rfl).bind fun _ ↦ confined_pure _

theorem apply_confined (identity : FsIdentity) : (apply identity).Confined opensImage defect :=
  (confined_ask rfl).bind fun _ ↦ (confined_ask rfl).bind fun _ ↦ current_confined.bind fun _ ↦
    confined_ite (confined_pure ()) (confined_throw nofun)

theorem restore_confined (previous : FsIdentity) : (restore previous).Confined opensImage defect :=
  (confined_ask rfl).bind fun _ ↦ (confined_ask rfl).bind fun _ ↦ current_confined.bind fun _ ↦
    confined_ite (confined_pure ()) (confined_throw nofun)

theorem escalate_confined (target : FsIdentity) : (escalate target).Confined opensImage defect :=
  (confined_ask rfl).bind fun _ ↦ (confined_ask rfl).bind fun _ ↦ current_confined.bind fun _ ↦
    confined_ite (confined_pure _) ((restore_confined _).bind fun _ ↦ confined_throw nofun)

/-- A bracket opens no image, if the work within opens none. -/
theorem within_confined (target : FsIdentity) {work : Operation α}
    (hwork : work.Confined opensImage defect) : (within target work).Confined opensImage defect := by
  apply (escalate_confined target).bind
  intro previous
  apply confined_lift_bind hwork.attempt
  rintro _ ⟨result, rfl, hresult⟩
  exact (restore_confined previous).bind fun _ ↦ confined_ofResult hresult

end FsIdentity

/-- What is wrong with the reference to an image. -/
def LoopArgs.defect? (args : LoopArgs) : Option Failure := errorOf? (ImageSource.ofReference args.image)

/-- No call is out of the question here: an image is opened, and then a bracket asks for ids. -/
theorem LoopArgs.perform_confined (args : LoopArgs) :
    args.perform.Confined (fun _ ↦ false) args.defect? := by
  apply (confined_ofResult (blames_errorOf? _)).bind
  intro source
  apply ((source.openImage_confined args.mode).allow fun _ _ ↦ rfl).bind
  intro image
  apply (confined_ask rfl).bind
  intro gid
  have hattach : (LoopDevice.attach args image source.name).Confined opensImage args.defect? :=
    (LoopDevice.attach_confined args image source.name).allow fun _ ↦ KernelCall.opensImage_of_isGuarded
  exact ((FsIdentity.within_confined ⟨0, gid⟩ hattach).allow fun _ _ ↦ rfl).bind fun _ ↦ confined_pure _

/-! ## Encrypted devices -/

namespace IpcNamespace

theorem openFile_confined (path : String) : (openFile path).Confined isGuarded defect :=
  confined_ask_check rfl nofun

theorem enter_confined (namespaceFile : Descriptor) : (enter namespaceFile).Confined isGuarded defect :=
  confined_ask_check rfl nofun

theorem describing_confined {describe : String → Failure} (h : ∀ message, (describe message).kind ≠ .config)
    {operation : Operation α} (hoperation : operation.Confined isGuarded defect) :
    (describing describe operation).Confined isGuarded defect := by
  apply Program.Meets.bind hoperation
  intro result _
  cases result with
  | ok value => exact confined_pure value
  | error failure => exact confined_throw (h failure.message)

/-- A visit to another namespace is as confined as the work done there. -/
theorem within_confined (pid : Int32) {work : Operation α} (hwork : work.Confined isGuarded defect) :
    (within pid work).Confined isGuarded defect := by
  unfold within
  apply confined_ite hwork
  apply (openFile_confined _).bind
  intro own
  apply (openFile_confined _).bind
  intro host
  apply Operation.Confined.bind
  · exact describing_confined (fun _ hkind ↦ by cases hkind) (enter_confined host)
  · intro _
    apply confined_lift_bind hwork
    intro result hresult
    apply Operation.Confined.bind
    · exact describing_confined (fun _ hkind ↦ by cases hkind) (enter_confined own)
    · exact fun _ ↦ confined_ofResult hresult

end IpcNamespace

namespace CryptDevice

theorem openDevice_confined (program : String) (key : List UInt8) (device : String) :
    (openDevice program key device).Confined isGuarded defect := by
  apply (confined_ask rfl).bind
  intro name
  apply (confined_ask rfl).bind
  intro answer
  cases answer with
  | ok result => exact confined_ite (confined_pure _) (confined_throw nofun)
  | error failure =>
    cases failure with
    | start cause => exact confined_throw nofun
    | wait cause => exact confined_throw nofun

/-- Work on a thread of its own is as confined as the work itself. -/
theorem onOwnThread_confined {work : Operation α} (hwork : work.Confined isGuarded defect) :
    (onOwnThread work).Confined isGuarded defect := by
  apply (confined_ask rfl).bind
  intro _
  apply (confined_check nofun _).bind
  intro _
  apply confined_lift_bind hwork.attempt
  rintro _ ⟨result, rfl, hresult⟩
  exact (confined_ask rfl).bind fun _ ↦ confined_ofResult hresult

end CryptDevice

theorem CryptArgs.perform_confined (args : CryptArgs) : args.perform.Confined isGuarded defect := by
  have hlocate : CryptDevice.locate.Confined isGuarded defect := confined_ask_check rfl nofun
  apply hlocate.bind
  intro program
  have hopen : (CryptDevice.openDevice program args.key args.loopDevice).Confined isGuarded defect :=
    CryptDevice.openDevice_confined program args.key args.loopDevice
  have hwithin := IpcNamespace.within_confined args.masterPid hopen
  apply confined_ite
  · exact (CryptDevice.onOwnThread_confined hwithin).bind fun _ ↦ confined_pure _
  · exact hopen.bind fun _ ↦ confined_pure _

/-! ## Requests -/

/-- Every name before the first unknown one is passed over. -/
theorem MountFlags.unknown_of_ofNames {names : List String} {failure : Failure}
    (h : ofNames names = .error failure) :
    ∃ name ∈ names, failure = .config s!"unknown mount flag: {name}" := by
  induction names with
  | nil => cases h
  | cons name rest ih =>
    cases hname : ofName name with
    | error unknown =>
      simp only [ofNames, hname] at h
      cases h
      unfold ofName at hname
      split at hname
      · cases hname
      · cases hname
        exact ⟨name, List.mem_cons_self .., rfl⟩
    | ok flag =>
      cases hrest : ofNames rest with
      | error other =>
        simp only [ofNames, hname, hrest] at h
        cases h
        obtain ⟨unknown, hunknown, hfailure⟩ := ih hrest
        exact ⟨unknown, List.mem_cons_of_mem _ hunknown, hfailure⟩
      | ok flags =>
        simp only [ofNames, hname, hrest] at h
        cases h

/-- The two texts that a hostname is refused with. -/
theorem HostnameArgs.cases_of_defect? {hostname : String} {failure : Failure}
    (h : HostnameArgs.defect? hostname = some failure) :
    failure = .config "hostname must not be empty" ∨
      failure = .config s!"hostname exceeds {maximalLength} bytes" := by
  unfold HostnameArgs.defect? at h
  split at h
  · cases h
    exact .inl rfl
  · split at h
    · cases h
      exact .inr rfl
    · cases h

theorem ImageSource.invalid_of_ofReference {reference : String} {failure : Failure}
    (h : ofReference reference = .error failure) :
    failure = .config s!"invalid image file descriptor in {Text.quoted reference}" := by
  unfold ofReference at h
  split at h
  · split at h
    · cases h
    · cases h
      rfl
  · cases h

namespace Request

/-- What a request is refused for before anything is asked of the kernel. -/
def defect? : Request → Option Failure
  | .mount args => args.defect?
  | .setHostname args => HostnameArgs.defect? args.hostname
  | .loopDevice args => args.defect?
  | _ => none

/-- Making the reply of an operation asks for nothing. -/
theorem replying_confined {forbidden : KernelCall → Bool} (make : α → Reply) {operation : Operation α}
    (h : operation.Confined forbidden defect) : (replying make operation).Confined forbidden defect :=
  h.bind fun value ↦ confined_pure (make value)

def attachesImage : Request → Bool
  | .loopDevice _ => true
  | _ => false

def asksIdentity : Request → Bool
  | .setFsId _ => true
  | _ => false

/-- An operation that neither attaches an image nor changes the identity for good has no business with ids or
images at all. -/
theorem operation_confined {request : Request} (hattaches : request.attachesImage = false)
    (hasks : request.asksIdentity = false) : request.operation.Confined isGuarded request.defect? := by
  cases request with
  | mount args => exact replying_confined _ args.perform_confined
  | decrypt args => exact replying_confined _ args.perform_confined
  | mkdir args => exact replying_confined _ args.perform_confined
  | chroot args => exact replying_confined _ args.perform_confined
  | loopDevice args => cases hattaches
  | setHostname args => exact replying_confined _ args.perform_confined
  | setFsId args => cases hasks
  | chdir args => exact replying_confined _ args.perform_confined

/-- Whatever the kernel answers, a request fails for nothing in its configuration but its defect. -/
theorem operation_blames (request : Request) : request.operation.Confined (fun _ ↦ false) request.defect? := by
  cases request with
  | loopDevice args => exact replying_confined _ args.perform_confined
  | setFsId args => exact replying_confined _ ((FsIdentity.apply_confined _).allow fun _ _ ↦ rfl)
  | _ => exact (operation_confined rfl rfl).allow fun _ _ ↦ rfl

/-- A request with a defect does nothing but fail for it. -/
theorem operation_of_defect? {request : Request} {failure : Failure} (h : request.defect? = some failure) :
    request.operation = throw failure := by
  cases request with
  | mount args =>
    have hnames : MountFlags.ofNames args.options = .error failure := errorOf?_eq_some.mp h
    simp only [operation, MountArgs.perform, hnames]
    rfl
  | setHostname args =>
    have hname : HostnameArgs.defect? args.hostname = some failure := h
    simp only [operation, HostnameArgs.perform, hname]
    rfl
  | loopDevice args =>
    have hreference : ImageSource.ofReference args.image = .error failure := errorOf?_eq_some.mp h
    simp only [operation, LoopArgs.perform, hreference]
    rfl
  | decrypt | mkdir | chroot | setFsId | chdir => cases h

/-- Every defect of a request is one of its configuration. -/
theorem kind_of_defect? {request : Request} {failure : Failure} (h : request.defect? = some failure) :
    failure.kind = .config := by
  cases request with
  | mount args =>
    obtain ⟨name, -, rfl⟩ := MountFlags.unknown_of_ofNames (errorOf?_eq_some.mp h)
    rfl
  | setHostname args =>
    obtain rfl | rfl := HostnameArgs.cases_of_defect? h
    · rfl
    · rfl
  | loopDevice args =>
    rw [ImageSource.invalid_of_ofReference (errorOf?_eq_some.mp h)]
    rfl
  | decrypt | mkdir | chroot | setFsId | chdir => cases h

end Request

end ContainerConstruction
