import Mathlib.Logic.Function.Basic
import ProtoClass.Files.Tree

/-!
# What file operations do to a tree

The place that a path leads to can be read off the path (`FileTree.place`): the operations only check that the way
there goes through directories.  No operation removes a directory, so a way that is open stays open (`Reaches.mono`).
Creating directories keeps everything that is there and adds no file (`grows_createDirs`), and writing a file changes
the tree at the place of the file only (`wrote_of_writeFile`).
-/

namespace ProtoClass.FileTree

variable {tree tree' tree'' : FileTree} {dir parts full : List String} {path : String}

private theorem lookup_filter_key_ne {nodes : List (List String × FileNode)} {path other : List String}
    (h : other ≠ path) : (nodes.filter (·.1 != path)).lookup other = nodes.lookup other := by
  induction nodes with
  | nil => rfl
  | cons entry rest ih =>
    obtain ⟨key, node⟩ := entry
    rw [List.filter_cons, List.lookup_cons]
    by_cases hkey : key = path
    · have hother : (other == path) = false := beq_false_of_ne h
      simp [hkey, hother, ih]
    · simp [hkey, List.lookup_cons, ih]

theorem node?_put_self {node : FileNode} (h : full ≠ []) : (tree.put full node).node? full = some node := by
  have hnone : (tree.nodes.filter (·.1 != full)).lookup full = none := by
    rw [List.lookup_eq_none_iff]
    intro entry hentry
    exact bne_iff_ne.2 (Ne.symm (bne_iff_ne.1 (List.mem_filter.1 hentry).2))
  simp [node?, put, List.lookup_append, hnone, h]

theorem node?_put_of_ne {node : FileNode} {other : List String} (h : other ≠ full) :
    (tree.put full node).node? other = tree.node? other := by
  unfold node? put
  rw [List.lookup_append, lookup_filter_key_ne h, List.lookup_cons, beq_false_of_ne h]
  simp

/-- The content of the file at a full path, if there is a file. -/
def contentAt (tree : FileTree) (full : List String) : Option ByteArray :=
  match tree.node? full with
  | some (.file content) => some content
  | _ => none

theorem contentAt_put_file {content : ByteArray} (h : full ≠ []) :
    (tree.put full (.file content)).contentAt = Function.update tree.contentAt full (some content) := by
  funext other
  by_cases hother : other = full
  · subst hother
    rw [Function.update_self, contentAt, node?_put_self h]
  · rw [Function.update_of_ne hother, contentAt, node?_put_of_ne hother, contentAt]

/-! ### Places -/

/-- The full path that names lead to from a directory, whether or not there is anything on the way. -/
def descend (dir : List String) : List String → List String
  | [] => dir
  | name :: rest => if name = ".." then descend dir.dropLast rest else descend (dir ++ [name]) rest

/-- The full path that a path leads to. -/
def place (tree : FileTree) (path : String) : List String :=
  descend (tree.origin path) (names path)

theorem descend_append (dir first second : List String) :
    descend dir (first ++ second) = descend (descend dir first) second := by
  induction first generalizing dir with
  | nil => rfl
  | cons name rest ih =>
    simp only [List.cons_append, descend]
    split <;> exact ih _

/-- Two dots lead up. -/
theorem descend_replicate (dir : List String) (n : Nat) :
    descend dir (List.replicate n "..") = dir.take (dir.length - n) := by
  induction n generalizing dir with
  | zero => simp [descend]
  | succ n ih =>
    rw [List.replicate_succ, descend, if_pos rfl, ih, List.dropLast_eq_take, List.take_take, List.length_take]
    congr 1
    omega

/-- Other names lead down. -/
theorem descend_of_not_mem (dir : List String) (h : ".." ∉ parts) : descend dir parts = dir ++ parts := by
  induction parts generalizing dir with
  | nil => simp [descend]
  | cons name rest ih =>
    rw [List.mem_cons, not_or] at h
    rw [descend, if_neg (Ne.symm h.1), ih _ h.2]
    simp

theorem eq_descend_of_walk (h : tree.walk dir parts = .ok full) : full = descend dir parts := by
  induction parts generalizing dir with
  | nil => cases h; rfl
  | cons name rest ih =>
    unfold walk at h
    unfold descend
    by_cases hup : name = ".."
    · rw [if_pos hup] at h ⊢
      exact ih h
    · rw [if_neg hup] at h ⊢
      split at h
      · cases h
      · cases h
      · exact ih h

/-- What is located lies in the directory to which all but the last name lead. -/
theorem locate_eq_ok_some :
    tree.locate dir parts = .ok (some full) ↔
      ∃ outer last parent, parts = outer ++ [last] ∧ last ≠ ".." ∧ tree.walk dir outer = .ok parent ∧
        full = parent ++ [last] := by
  unfold locate
  rcases List.eq_nil_or_concat parts with rfl | ⟨outer, last, rfl⟩
  · simp
  · simp only [List.concat_eq_append, List.getLast?_concat, List.dropLast_concat]
    constructor
    · intro h
      rcases hwalk : tree.walk dir outer with fault | parent
      · rw [hwalk] at h
        cases h
      · rw [hwalk] at h
        dsimp only [bind, Except.bind] at h
        split at h
        · cases h
        · rename_i hup
          cases h
          exact ⟨outer, last, parent, rfl, hup, hwalk, rfl⟩
    · rintro ⟨outer', last', parent, heq, hup, hwalk, rfl⟩
      obtain ⟨rfl, hlast⟩ := List.append_inj' heq rfl
      cases hlast
      simp [hwalk, hup, bind, Except.bind, pure, Except.pure]

theorem eq_descend_of_locate (h : tree.locate dir parts = .ok (some full)) :
    full = descend dir parts ∧ full ≠ [] := by
  obtain ⟨outer, last, parent, rfl, hup, hwalk, rfl⟩ := locate_eq_ok_some.1 h
  rw [descend_append, ← eq_descend_of_walk hwalk]
  simp [descend, hup]

/-! ### Trees that grow -/

/-- A later tree: no directory has gone. -/
structure Extends (tree tree' : FileTree) : Prop where
  workDir : tree'.workDir = tree.workDir
  directory : ∀ full, tree.node? full = some .directory → tree'.node? full = some .directory

namespace Extends

theorem refl (tree : FileTree) : Extends tree tree :=
  ⟨rfl, fun _ h => h⟩

theorem trans (h : Extends tree tree') (h' : Extends tree' tree'') : Extends tree tree'' :=
  ⟨h'.workDir.trans h.workDir, fun full hfull => h'.directory full (h.directory full hfull)⟩

theorem origin_eq (h : Extends tree tree') (path : String) : tree'.origin path = tree.origin path := by
  unfold origin
  rw [h.workDir]

theorem place_eq (h : Extends tree tree') (path : String) : tree'.place path = tree.place path := by
  unfold place
  rw [h.origin_eq]

theorem walk_eq (h : Extends tree tree') (hwalk : tree.walk dir parts = .ok full) :
    tree'.walk dir parts = .ok full := by
  induction parts generalizing dir with
  | nil => exact hwalk
  | cons name rest ih =>
    unfold walk at hwalk ⊢
    by_cases hup : name = ".."
    · rw [if_pos hup] at hwalk ⊢
      exact ih hwalk
    · rw [if_neg hup] at hwalk ⊢
      split at hwalk
      · cases hwalk
      · cases hwalk
      · rename_i hnode
        rw [h.directory _ hnode]
        exact ih hwalk

theorem locate_eq (h : Extends tree tree') (hlocate : tree.locate dir parts = .ok (some full)) :
    tree'.locate dir parts = .ok (some full) := by
  obtain ⟨outer, last, parent, hparts, hup, hwalk, hfull⟩ := locate_eq_ok_some.1 hlocate
  exact locate_eq_ok_some.2 ⟨outer, last, parent, hparts, hup, h.walk_eq hwalk, hfull⟩

end Extends

/-- A later tree that still holds everything, and that has no other new nodes than directories. -/
structure Grows (tree tree' : FileTree) : Prop where
  workDir : tree'.workDir = tree.workDir
  node : ∀ full node, tree.node? full = some node → tree'.node? full = some node
  files : tree'.contentAt = tree.contentAt

namespace Grows

theorem refl (tree : FileTree) : Grows tree tree :=
  ⟨rfl, fun _ _ h => h, rfl⟩

theorem trans (h : Grows tree tree') (h' : Grows tree' tree'') : Grows tree tree'' :=
  ⟨h'.workDir.trans h.workDir, fun full node hnode => h'.node full node (h.node full node hnode),
    h'.files.trans h.files⟩

theorem toExtends (h : Grows tree tree') : Extends tree tree' :=
  ⟨h.workDir, fun full => h.node full .directory⟩

end Grows

theorem grows_createDir (h : tree.createDir dir parts = .ok tree') : Grows tree tree' := by
  unfold createDir at h
  rcases hlocated : tree.locate dir parts with fault | _ | full
  · rw [hlocated] at h
    cases h
  · rw [hlocated] at h
    cases h
  · rw [hlocated] at h
    dsimp only [bind, Except.bind] at h
    split at h
    · cases h
    · rename_i hfree
      cases h
      have hnone : tree.node? full = none := by simpa using hfree
      refine ⟨rfl, fun other node hother => ?_, funext fun other => ?_⟩
      · rw [node?_put_of_ne, hother]
        rintro rfl
        simp [hother] at hnone
      · by_cases hother : other = full
        · subst hother
          rw [contentAt, contentAt, node?_put_self (eq_descend_of_locate hlocated).2, hnone]
        · rw [contentAt, contentAt, node?_put_of_ne hother]

/-- Creating directories keeps what is there, also where it fails. -/
theorem grows_createDirsFrom (dir : List String) (names : List String) (tree : FileTree) :
    Grows tree (createDirsFrom dir names tree).2 := by
  induction names generalizing tree with
  | nil => exact Grows.refl tree
  | cons name outer ih =>
    unfold createDirsFrom
    dsimp only
    -- where a directory could not be created, only the answer depends on what is there instead
    have hsettle : ∀ (later : FileTree) (fault : FileFault),
        (if later.isDir dir (name :: outer).reverse then (Except.ok (), later) else (.error fault, later)).2 =
          later := by
      intro later fault
      split <;> rfl
    split
    · exact grows_createDir ‹_›
    · have houter := ih tree
      split
      · rename_i hrun
        rwa [hrun] at houter
      · rename_i hrun
        rw [hrun] at houter
        split
        · exact houter.trans (grows_createDir ‹_›)
        · rw [hsettle]
          exact houter
    · rw [hsettle]
      exact Grows.refl tree

theorem grows_createDirs (tree : FileTree) (path : String) : Grows tree (tree.createDirs path).2 :=
  grows_createDirsFrom _ _ tree

/-! ### Files -/

/-- A path on which a file can be read or written: the way is open, and the end is not marked as a directory. -/
structure Reaches (tree : FileTree) (path : String) : Prop where
  nonempty : path.isEmpty = false
  endsInName : endsInSlash path = false
  located : tree.locate (tree.origin path) (names path) = .ok (some (tree.place path))

theorem Reaches.mono (h : tree.Reaches path) (hextends : Extends tree tree') : tree'.Reaches path := by
  refine ⟨h.nonempty, h.endsInName, ?_⟩
  rw [hextends.origin_eq, hextends.place_eq]
  exact hextends.locate_eq h.located

theorem Reaches.readFile {content : ByteArray} (h : tree.Reaches path)
    (hnode : tree.node? (tree.place path) = some (.file content)) : tree.readFile path = .ok content := by
  unfold FileTree.readFile
  simp [h.nonempty, h.endsInName, h.located, hnode, bind, Except.bind, pure, Except.pure]

/-- The tree after a file was written: the file is at its place, and all else is as it was. -/
structure Wrote (tree : FileTree) (path : String) (content : ByteArray) (tree' : FileTree) : Prop where
  later : Extends tree tree'
  reaches : tree'.Reaches path
  written : tree'.node? (tree.place path) = some (.file content)
  others : ∀ full node, full ≠ tree.place path → tree.node? full = some node → tree'.node? full = some node
  files : tree'.contentAt = Function.update tree.contentAt (tree.place path) (some content)

theorem Wrote.after {content : ByteArray} (h : Wrote tree' path content tree'') (hgrows : Grows tree tree') :
    Wrote tree path content tree'' := by
  have hplace := hgrows.toExtends.place_eq path
  refine ⟨hgrows.toExtends.trans h.later, h.reaches, hplace ▸ h.written, ?_, ?_⟩
  · intro full node hfull hnode
    exact h.others full node (hplace ▸ hfull) (hgrows.node full node hnode)
  · rw [h.files, hgrows.files, hplace]

theorem wrote_put {content : ByteArray} (hreaches : tree.Reaches path)
    (hnode : tree.node? (tree.place path) ≠ some .directory) :
    Wrote tree path content (tree.put (tree.place path) (.file content)) := by
  have hothers : ∀ full node, full ≠ tree.place path → tree.node? full = some node →
      (tree.put (tree.place path) (.file content)).node? full = some node := by
    intro full node hfull hold
    rw [node?_put_of_ne hfull, hold]
  have hlater : Extends tree (tree.put (tree.place path) (.file content)) := by
    refine ⟨rfl, fun full hdirectory => hothers full _ ?_ hdirectory⟩
    rintro rfl
    exact hnode hdirectory
  have hroot : tree.place path ≠ [] := (eq_descend_of_locate hreaches.located).2
  exact ⟨hlater, hreaches.mono hlater, node?_put_self hroot, hothers, contentAt_put_file hroot⟩

theorem wrote_of_writeFile {content : ByteArray} (h : tree.writeFile path content = .ok tree') :
    Wrote tree path content tree' := by
  unfold writeFile at h
  by_cases hempty : path.isEmpty = true
  · rw [if_pos hempty] at h
    cases h
  rw [if_neg hempty] at h
  rcases hlocated : tree.locate (tree.origin path) (names path) with fault | _ | full
  · rw [hlocated] at h
    cases h
  · rw [hlocated] at h
    cases h
  · rw [hlocated] at h
    obtain ⟨rfl, _⟩ := eq_descend_of_locate hlocated
    dsimp only [bind, Except.bind] at h
    split at h
    · cases h
    · rename_i hfree
      cases h
      simp only [Bool.or_eq_true, not_or, Bool.not_eq_true] at hfree hempty
      refine wrote_put ⟨hempty, hfree.2, hlocated⟩ ?_
      intro hdirectory
      rw [place] at hdirectory
      simp [hdirectory, FileNode.isDirectory] at hfree

end ProtoClass.FileTree
