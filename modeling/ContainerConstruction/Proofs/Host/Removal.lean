import ContainerConstruction.Host.Files
import Mathlib.Data.List.TakeWhile

/-!
# What can be removed

`Host.Removable` says when a path can be removed, and `Host.removeFile_ok_iff` that removing it then takes away
the one node that it leads to.  What can be removed is in the way of a socket.
-/

namespace ContainerConstruction

namespace Path

/-- A name that is no file begins with what no path can hold. -/
theorem isAbstract_of_hasNul {path : String} (h : hasNul path = false) : isAbstract path = false := by
  rw [isAbstract, decide_eq_false_iff_not]
  intro hhead
  rw [hasNul, List.contains_iff_mem.mpr (List.mem_of_head? hhead)] at h
  cases h

/-! ## Paths with slashes behind them -/

theorem pieces_ne_nil (text : List Char) : pieces text ≠ [] := by
  cases text with
  | nil => nofun
  | cons first rest =>
    unfold pieces
    split
    · nofun
    · split <;> nofun

theorem pieces_concat_slash (text : List Char) : pieces (text ++ ['/']) = pieces text ++ [[]] := by
  induction text with
  | nil => rfl
  | cons first rest ih =>
    rw [List.cons_append, pieces, pieces]
    split
    · exact congrArg (List.cons []) ih
    · rw [ih]
      cases hpieces : pieces rest with
      | nil => exact absurd hpieces (pieces_ne_nil rest)
      | cons piece pieces => rfl

/-- Slashes at the end add no component. -/
theorem filter_pieces_append_slashes (text : List Char) (count : Nat) :
    (pieces (text ++ List.replicate count '/')).filter (fun piece ↦ !piece.isEmpty) =
      (pieces text).filter fun piece ↦ !piece.isEmpty := by
  induction count with
  | zero => rw [List.replicate_zero, List.append_nil]
  | succ count ih =>
    rw [List.replicate_succ', ← List.append_assoc, pieces_concat_slash, List.filter_append, ih]
    exact List.append_nil _

end Path

namespace Lookup

/-- A path is what it is without its final slashes, and slashes. -/
theorem toList_eq_withoutFinalSlashes (path : String) :
    ∃ count, path.toList = (withoutFinalSlashes path).toList ++ List.replicate count '/' := by
  have hslashes : ∀ c ∈ path.toList.reverse.takeWhile (· = '/'), c = '/' := fun c hc ↦
    of_decide_eq_true (List.mem_takeWhile_imp (p := fun c ↦ decide (c = '/')) hc)
  refine ⟨(path.toList.reverse.takeWhile (· = '/')).length, ?_⟩
  calc
    path.toList = (path.toList.reverse.takeWhile (· = '/') ++
        path.toList.reverse.dropWhile (· = '/')).reverse := by
      rw [List.takeWhile_append_dropWhile, List.reverse_reverse]
    _ = _ := by
      rw [List.reverse_append, withoutFinalSlashes, String.toList_ofList,
        List.eq_replicate_of_mem hslashes, List.reverse_replicate, List.length_replicate]

/-- Without its final slashes a path has the same components. -/
theorem components_withoutFinalSlashes (path : String) :
    Path.components (withoutFinalSlashes path) = Path.components path := by
  obtain ⟨count, hpath⟩ := toList_eq_withoutFinalSlashes path
  rw [Path.components, Path.components, hpath, Path.filter_pieces_append_slashes]

theorem endsInSlash_withoutFinalSlashes (path : String) :
    Path.endsInSlash (withoutFinalSlashes path) = false := by
  rw [Path.endsInSlash, withoutFinalSlashes, String.toList_ofList, List.getLast?_reverse]
  refine decide_eq_false fun hslash ↦ ?_
  have hhead := List.head?_dropWhile_not (fun c : Char ↦ decide (c = '/')) path.toList.reverse
  rw [hslash] at hhead
  simp at hhead

/-- The steps of a path go on where those of the path without its final slashes end. -/
theorem steps_eq_append (path : String) :
    ∃ behind, steps path = steps (withoutFinalSlashes path) ++ behind := by
  refine ⟨if Path.endsInSlash path && !(Path.components path).isEmpty then ["."] else [], ?_⟩
  rw [steps, steps, components_withoutFinalSlashes, endsInSlash_withoutFinalSlashes, Bool.false_and]
  exact congrArg (· ++ _) (List.append_nil _).symm

/-- What lies further on is only there if what lies before it is there too.  By induction on the steps that are
taken; where a step has nothing to stand on, the longer way ends as well. -/
theorem walk_present_of_append {tree : FileTree} {identity : FsIdentity} {links : Nat} {here found : TreePath}
    {names behind : List String}
    (h : walk tree identity false links here (names ++ behind) = .ok (.present found)) :
    ∃ before, walk tree identity false links here names = .ok (.present before) := by
  fun_induction walk tree identity false links here names with
  -- No step is left, or the last one leads to a link.
  | case1 => exact ⟨_, rfl⟩
  | case10 => exact ⟨_, rfl⟩
  -- The walk goes on: in place, above, behind a link or below.
  | case5 _ _ _ _ _ _ _ ih | case6 _ _ _ _ _ _ _ _ ih | case12 _ _ _ _ _ _ _ _ _ _ _ _ _ _ _ _ ih
  | case13 _ _ _ _ _ _ _ _ _ _ _ _ _ _ ih =>
    rw [List.cons_append, walk] at h
    refine ih ?_
    simp_all [-Nat.not_lt, -not_lt]
  -- The last name is free, and nothing is behind it.
  | case8 =>
    rw [List.cons_append, walk] at h
    cases behind <;> simp_all [-Nat.not_lt, -not_lt]
  | _ =>
    rw [List.cons_append, walk] at h
    simp_all [-Nat.not_lt, -not_lt]

theorem utf8ByteSize_withoutFinalSlashes_le (path : String) :
    (withoutFinalSlashes path).utf8ByteSize ≤ path.utf8ByteSize := by
  obtain ⟨count, hpath⟩ := toList_eq_withoutFinalSlashes path
  have happend : path = withoutFinalSlashes path ++ String.ofList (List.replicate count '/') := by
    rw [← String.toList_inj, String.toList_append, String.toList_ofList]
    exact hpath
  calc
    (withoutFinalSlashes path).utf8ByteSize ≤ (withoutFinalSlashes path).utf8ByteSize +
        (String.ofList (List.replicate count '/')).utf8ByteSize := Nat.le_add_right _ _
    _ = path.utf8ByteSize := by rw [← String.utf8ByteSize_append, ← happend]

theorem isAbsolute_withoutFinalSlashes {path : String} (h : (withoutFinalSlashes path).isEmpty = false) :
    Path.isAbsolute (withoutFinalSlashes path) = Path.isAbsolute path := by
  obtain ⟨count, hpath⟩ := toList_eq_withoutFinalSlashes path
  have hsome : (withoutFinalSlashes path).toList ≠ [] := by
    simpa [String.isEmpty_iff, String.toList_eq_nil_iff] using h
  obtain ⟨first, rest, hfirst⟩ := List.exists_cons_of_ne_nil hsome
  rw [Path.isAbsolute, Path.isAbsolute, hpath, hfirst]
  rfl

theorem find_eq_ok_iff {tree : FileTree} {identity : FsIdentity} {directory found : TreePath} {final : Bool}
    {path : String} {node : Node} : find tree identity directory final path = .ok (found, node) ↔
      locate tree identity directory final path = .ok (.present found) ∧ tree.node? found = some node := by
  unfold find
  constructor
  · intro h
    split at h
    · cases h
    · cases h
    next hlocate =>
      split at h
      · cases h
      next hnode =>
        cases h
        exact ⟨hlocate, hnode⟩
  · rintro ⟨hlocate, hnode⟩
    rw [hlocate]
    simp only [hnode]

/-- What a path leads to is in the way of a new name there, also if slashes stand behind the name. -/
theorem vacancy_of_find {tree : FileTree} {identity : FsIdentity} {directory found : TreePath} {path : String}
    {node : Node} (h : find tree identity directory false path = .ok (found, node)) :
    vacancy tree identity directory path = .error .fileExists := by
  obtain ⟨hlocate, -⟩ := find_eq_ok_iff.mp h
  unfold locate at hlocate
  split at hlocate
  · cases hlocate
  split at hlocate
  · cases hlocate
  next hpath hlength =>
  unfold vacancy
  cases hbare : (withoutFinalSlashes path).isEmpty with
  | true => simp only [hbare, hpath, Bool.not_false, Bool.and_self, if_true]
  | false =>
    obtain ⟨behind, hsteps⟩ := steps_eq_append path
    rw [hsteps, ← isAbsolute_withoutFinalSlashes hbare] at hlocate
    obtain ⟨before, hbefore⟩ := walk_present_of_append hlocate
    have hshort : ¬maximalPath < (withoutFinalSlashes path).utf8ByteSize :=
      Nat.not_lt.mpr ((utf8ByteSize_withoutFinalSlashes_le path).trans (Nat.not_lt.mp hlength))
    simp only [hbare, locate, hshort, hbefore, Bool.false_and, Bool.false_eq_true, if_false]

end Lookup

/-! ## Removing -/

namespace FileTree

/-- Taking a node away changes what is at its path, and nothing else. -/
theorem node?_erase (path other : TreePath) (tree : FileTree) :
    (tree.erase path).node? other = if other = path then none else tree.node? other := by
  unfold node? erase
  rw [List.find?_filter]
  split
  next h => simp [h]
  next h =>
    refine congrArg (Option.map _) (congrArg (List.find? · _) (funext fun entry ↦ ?_))
    by_cases hentry : entry.1 = other <;> simp [hentry, h]

end FileTree

namespace Host

open Lookup

theorem bind_ok_iff {α β : Type} {first : Except Errno α} {next : α → Except Errno β} {value : β} :
    (first >>= next) = .ok value ↔ ∃ between, first = .ok between ∧ next between = .ok value := by
  cases first with
  | error errno => exact ⟨nofun, nofun⟩
  | ok between => simp [bind, Except.bind]

theorem guard_ok_iff {β : Type} {condition : Prop} [Decidable condition] {errno : Errno}
    {next : PUnit → Except Errno β} {value : β} :
    (if condition then throw errno >>= next else next ⟨⟩) = .ok value ↔ ¬condition ∧ next ⟨⟩ = .ok value := by
  split
  next h => exact ⟨nofun, fun hnot ↦ absurd h hnot.1⟩
  next h => exact (and_iff_right h).symm

/-- Whether somebody may remove what a path leads to, which is the node at a place of the tree. -/
structure Removable (who : Accessor) (path : String) (host : Host) (found : TreePath) (node : Node) : Prop where
  text : Path.hasNul path = false
  there : find host.tree who.identity who.place.directory false path = .ok (found, node)
  file : node.isDirectory = false
  allowed : ∃ directory, checkChangeable who (parent found) host = .ok directory ∧
    (directory.access.mode &&& stickyBit ≠ 0 →
      node.access.uid = who.identity.uid ∨ directory.access.uid = who.identity.uid)

variable {who : Accessor} {path : String} {host next : Host} {found : TreePath} {node : Node}

/-- A removal succeeds exactly if it is permitted, and takes the node away. -/
theorem removeFile_ok_iff : host.removeFile who path = .ok next ↔
    ∃ found node, host.Removable who path found node ∧ next = { host with tree := host.tree.erase found } := by
  unfold removeFile
  constructor
  · intro h
    obtain ⟨htext, h⟩ := guard_ok_iff.mp h
    obtain ⟨⟨found, node⟩, hfind, h⟩ := bind_ok_iff.mp h
    obtain ⟨directory, hparent, h⟩ := bind_ok_iff.mp h
    obtain ⟨hsticky, h⟩ := guard_ok_iff.mp h
    obtain ⟨hfile, h⟩ := guard_ok_iff.mp h
    cases h
    refine ⟨found, node, ⟨by simpa using htext, hfind, by simpa using hfile, directory, hparent, ?_⟩, rfl⟩
    simpa [or_iff_not_imp_left] using hsticky
  · rintro ⟨found, node, ⟨htext, hfind, hfile, directory, hparent, hmine⟩, rfl⟩
    refine guard_ok_iff.mpr ⟨by simp [htext], bind_ok_iff.mpr ⟨(found, node), hfind, bind_ok_iff.mpr
      ⟨directory, hparent, guard_ok_iff.mpr ⟨?_, guard_ok_iff.mpr ⟨by simp [hfile], rfl⟩⟩⟩⟩⟩
    simpa [or_iff_not_imp_left] using hmine

/-- What may be removed is in the way of a socket. -/
theorem Removable.bindSocket (h : host.Removable who path found node) :
    host.bindSocket who path = .error (if maximalSocketPath < path.utf8ByteSize then .socketPathTooLong
      else .errno (host.socketRefusal.getD .addressInUse)) := by
  have hcreate : host.create who path 0o777 .socket = .error .fileExists := by
    simp [create, h.text, vacancy_of_find h.there, bind, Except.bind]
  rw [Host.bindSocket, Path.isAbstract_of_hasNul h.text]
  simp only [Bool.not_false, if_true, bindFile, h.text, hcreate, Bool.false_eq_true, if_false]
  split
  · rfl
  · cases host.socketRefusal <;> rfl

end Host

end ContainerConstruction
