import ContainerConstruction.CommandLine.Commands
import ContainerConstruction.Proofs.Host.Removal

/-!
# Serving on a path that is taken

When serving is over, what is at the path of the socket is removed, and serving is over as well when the socket
could not be bound.  So a file, a link or the socket of another server that is in the way is removed, although
it did not come from the program.  The same happens if there is no socket to bind at all.  `UnboundLaws` says
when something is removed, and that nothing else is lost.
-/

namespace ContainerConstruction.CommandLine

theorem dropSocket_of_removable {socket : String} {host : Host} {found : TreePath} {node : Node}
    (h : host.Removable (host.accessor .server) socket found node) :
    dropSocket socket host = { host with tree := host.tree.erase found } := by
  rw [dropSocket, Host.removeFile_ok_iff.mpr ⟨found, node, h, rfl⟩]

theorem dropSocket_of_not_removable {socket : String} {host : Host}
    (h : ∀ found node, ¬host.Removable (host.accessor .server) socket found node) :
    dropSocket socket host = host := by
  unfold dropSocket
  split
  next hremove =>
    obtain ⟨found, node, hremovable, -⟩ := Host.removeFile_ok_iff.mp hremove
    exact absurd hremovable (h found node)
  · rfl

/-- What serving leaves behind on a host on which the socket cannot be bound. -/
structure UnboundLaws (engine socket : String) (cause : IoCause) (host : Host) (result : Result) : Prop where
  failed : result.exitCode = Result.failureExitCode ∧ result.output = [] ∧ result.responses = none
  /-- The failure is that of the socket, unless there is no such engine. -/
  reported : result.errors = Text.Utf8.ofText (Result.failureLine
    (match Runtime.registry.lookup engine with
    | .ok _ => .io socket cause
    | .error failure => failure))
  /-- Nothing is another but the tree. -/
  framed : result.host = { host with tree := result.host.tree }
  /-- The tree stays as it was if there is no such engine, or nothing at the path that may be removed, and only
  then. -/
  kept : result.host.tree = host.tree ↔ (∃ failure, Runtime.registry.lookup engine = .error failure) ∨
    ∀ found node, ¬host.Removable (host.accessor .server) socket found node
  /-- What is lost from it is what the path leads to, and nothing else. -/
  lost : result.host.tree ≠ host.tree → ∃ found node,
    host.Removable (host.accessor .server) socket found node ∧
    ∀ path, result.host.tree.node? path = if path = found then none else host.tree.node? path
  /-- Nothing is lost but for a path that is in use, for one that is too long for a socket, or because the
  system gives out no socket. -/
  harmless : cause ≠ .errno .addressInUse → cause ≠ .socketPathTooLong →
    (∀ errno, host.socketRefusal = some errno → cause ≠ .errno errno) → result.host = host

/-- A result that keeps the host, because there is no such engine or nothing to be removed. -/
theorem unboundLaws_of_kept {engine socket : String} {cause : IoCause} {host : Host} {result : Result}
    (hkept : (∃ failure, Runtime.registry.lookup engine = .error failure) ∨
      ∀ found node, ¬host.Removable (host.accessor .server) socket found node)
    (hfailed : result = (Result.quiet 0 host).failed
      (match Runtime.registry.lookup engine with
      | .ok _ => .io socket cause
      | .error failure => failure)) :
    UnboundLaws engine socket cause host result := by
  subst hfailed
  exact ⟨⟨rfl, rfl, rfl⟩, rfl, rfl, iff_of_true rfl hkept, fun h ↦ absurd rfl h, fun _ _ _ ↦ rfl⟩

theorem unboundLaws_serve (engine : String) {socket : String} (stream : List UInt8) {host : Host}
    {cause : IoCause} (h : host.bindSocket (host.accessor .server) socket = .error cause) :
    UnboundLaws engine socket cause host (serve engine socket stream host) := by
  cases hengine : Runtime.registry.lookup engine with
  | error failure =>
    refine unboundLaws_of_kept (.inl ⟨failure, hengine⟩) ?_
    rw [serve, hengine]
  | ok registration =>
  have hserve : serve engine socket stream host =
      (Result.quiet 0 (dropSocket socket host)).failed (.io socket cause) := by
    rw [serve, hengine, h]
  by_cases hremovable : ∃ found node, host.Removable (host.accessor .server) socket found node
  · obtain ⟨found, node, hfound⟩ := hremovable
    have hnode : host.tree.node? found = some node := (Lookup.find_eq_ok_iff.mp hfound.there).2
    rw [hserve, dropSocket_of_removable hfound]
    have hchanged : host.tree.erase found ≠ host.tree := by
      intro hsame
      rw [← hsame, FileTree.node?_erase, if_pos rfl] at hnode
      cases hnode
    exact {
      failed := ⟨rfl, rfl, rfl⟩
      reported := by rw [hengine]; rfl
      framed := rfl
      kept := by
        refine iff_of_false hchanged ?_
        rintro (⟨failure, herror⟩ | hnothing)
        · rw [hengine] at herror
          cases herror
        · exact hnothing found node hfound
      lost := fun _ ↦ ⟨found, node, hfound, fun path ↦ FileTree.node?_erase found path host.tree⟩
      harmless := by
        intro hused hlong hrefused
        have hcause := hfound.bindSocket.symm.trans h
        split at hcause <;> cases hcause
        · exact absurd rfl hlong
        · cases hrefusal : host.socketRefusal with
          | none => exact absurd (by rw [hrefusal]; rfl) hused
          | some errno => exact absurd (by rw [hrefusal]; rfl) (hrefused errno hrefusal) }
  · have hnothing : ∀ found node, ¬host.Removable (host.accessor .server) socket found node :=
      fun found node hfound ↦ hremovable ⟨found, node, hfound⟩
    refine unboundLaws_of_kept (.inr hnothing) ?_
    rw [hserve, dropSocket_of_not_removable hnothing, hengine]

/-- If the socket cannot be bound, the command fails.  What is lost then is at most what the path of the socket
leads to. -/
theorem perform_serve_unbound {config : RuntimeConfig} {configFile : String} (socket : Option String)
    (engine : String) (logFormat : LogFormat) (stream : List UInt8) {host : Host} {cause : IoCause}
    (hconfig : RuntimeConfig.load host.textReader configFile = .ok config)
    (hbind : host.bindSocket (host.accessor .server) (socket.getD (standardSocket config)) = .error cause) :
    UnboundLaws engine (socket.getD (standardSocket config)) cause host
      (perform ⟨.serve socket engine, configFile, logFormat⟩ stream host) := by
  simp only [perform, hconfig]
  exact unboundLaws_serve engine stream hbind

/-- A host with a file where a socket might be. -/
def occupied : Host :=
  { Host.initial with
    tree := ⟨[([], ⟨Host.owned 0o755, .directory⟩), (["s"], ⟨Host.owned 0o644, .file [107]⟩)]⟩
    place := ⟨[], 0o022⟩ }

theorem locate_occupied :
    Lookup.locate occupied.tree ⟨0, 0⟩ [] false "s" = .ok (.present ["s"]) := by
  have hsteps : Lookup.steps "s" = ["s"] := by decide
  have hroot : occupied.tree.node? [] = some ⟨Host.owned 0o755, .directory⟩ := rfl
  have hfile : occupied.tree.node? ["s"] = some ⟨Host.owned 0o644, .file [107]⟩ := rfl
  have hwalk : Lookup.walk occupied.tree ⟨0, 0⟩ false Lookup.maximalLinks [] ["s"] = .ok (.present ["s"]) := by
    rw [Lookup.walk, hroot]
    simp only [List.nil_append, hfile, Lookup.walk]
    rfl
  rw [Lookup.locate, hsteps]
  exact hwalk

theorem removable_occupied :
    occupied.Removable (occupied.accessor .server) "s" ["s"] ⟨Host.owned 0o644, .file [107]⟩ where
  text := by decide
  there := Lookup.find_eq_ok_iff.mpr ⟨locate_occupied, rfl⟩
  file := rfl
  allowed := ⟨_, rfl, nofun⟩

theorem load_occupied : RuntimeConfig.load occupied.textReader "" = .ok .standard := rfl

theorem bindSocket_occupied :
    occupied.bindSocket (occupied.accessor .server) "s" = .error (.errno .addressInUse) :=
  removable_occupied.bindSocket

theorem perform_serve_unbound_occupied :
    RuntimeConfig.load occupied.textReader "" = .ok .standard ∧
      occupied.bindSocket (occupied.accessor .server) "s" = .error (.errno .addressInUse) ∧
      UnboundLaws "standard" "s" (.errno .addressInUse) occupied
        (perform ⟨.serve (some "s") "standard", "", .text⟩ [] occupied) :=
  ⟨load_occupied, bindSocket_occupied,
    perform_serve_unbound (some "s") "standard" .text [] load_occupied bindSocket_occupied⟩

/-- The file that was in the way of the socket is removed. -/
theorem perform_serve_removes_file :
    RuntimeConfig.load occupied.textReader "" = .ok .standard ∧
      occupied.bindSocket (occupied.accessor .server) "s" = .error (.errno .addressInUse) ∧
      occupied.tree.node? ["s"] = some ⟨Host.owned 0o644, .file [107]⟩ ∧
      (perform ⟨.serve (some "s") "standard", "", .text⟩ [] occupied).host.tree.node? ["s"] = none := by
  refine ⟨load_occupied, bindSocket_occupied, rfl, ?_⟩
  have hserve : (perform ⟨.serve (some "s") "standard", "", .text⟩ [] occupied).host =
      dropSocket "s" occupied := by
    simp only [perform, load_occupied, Option.getD_some, serve, bindSocket_occupied]
    rfl
  rw [hserve, dropSocket_of_removable removable_occupied]
  rfl

end ContainerConstruction.CommandLine
