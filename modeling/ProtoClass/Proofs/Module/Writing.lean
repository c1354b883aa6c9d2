import ProtoClass.Proofs.Module.Emission

/-!
# Which files are written

All modules are made before the first one is written, so a schema with a fault leaves every file as it is.  Otherwise
the files are those that were there, updated with the modules one after the other, up to the first module that cannot
be written (`emit_all_or_nothing`).  Creating directories does not count here: it changes no file.
-/

namespace ProtoClass

namespace FileTree

variable {tree middle : FileTree} {dir : String}

/-- The files of a tree, updated with modules one after the other. -/
def filesAfter (tree : FileTree) (dir : String) (modules : List GeneratedModule) : List String → Option ByteArray :=
  modules.foldl (fun files generated =>
    Function.update files (tree.place (generated.target dir)) (some generated.contents.toUTF8)) tree.contentAt

theorem filesAfter_cons {first : GeneratedModule} (h : Wrote tree (first.target dir) first.contents.toUTF8 middle)
    (rest : List GeneratedModule) : tree.filesAfter dir (first :: rest) = middle.filesAfter dir rest := by
  unfold filesAfter
  rw [List.foldl_cons, h.files]
  congr 1
  funext files generated
  rw [h.later.place_eq]

/-- Modules up to one that cannot be written: the ones in front of it are written, and nothing else is. -/
structure StopsAt (tree : FileTree) (dir : String) (before : List GeneratedModule) (failed : GeneratedModule)
    (fault : FileFault) (tree' : FileTree) : Prop where
  reached : ∃ middle, (writeModules (m := StateM FileTree) dir before).run tree =
      (.ok (before.map (·.target dir)), middle) ∧
    (writeText (m := StateM FileTree) (failed.target dir) failed.contents).run middle = (.error fault, tree')
  files : tree'.contentAt = tree.filesAfter dir before

theorem StopsAt.cons {tree' : FileTree} {first failed : GeneratedModule} {before : List GeneratedModule}
    {fault : FileFault}
    (hrun : (writeText (m := StateM FileTree) (first.target dir) first.contents).run tree = (.ok (), middle))
    (hwrote : Wrote tree (first.target dir) first.contents.toUTF8 middle)
    (h : StopsAt middle dir before failed fault tree') : StopsAt tree dir (first :: before) failed fault tree' := by
  obtain ⟨last, hbefore, hfailed⟩ := h.reached
  refine ⟨⟨last, ?_, hfailed⟩, ?_⟩
  · rw [run_writeModules_of_ok before hrun, hbefore]
    rfl
  · rw [h.files, filesAfter_cons hwrote]

/-- Modules are all written, or up to the first that cannot be. -/
theorem writeModules_cases (dir : String) (modules : List GeneratedModule) (tree : FileTree) :
    (∃ tree', (writeModules (m := StateM FileTree) dir modules).run tree =
        (.ok (modules.map (·.target dir)), tree') ∧ tree'.contentAt = tree.filesAfter dir modules) ∨
      ∃ before failed after fault tree', modules = before ++ failed :: after ∧
        (writeModules (m := StateM FileTree) dir modules).run tree =
          (.error (.unwritable (failed.target dir) fault), tree') ∧
        StopsAt tree dir before failed fault tree' := by
  induction modules generalizing tree with
  | nil => exact Or.inl ⟨tree, rfl, rfl⟩
  | cons first rest ih =>
    rcases writeText_cases (first.target dir) first.contents tree with
      ⟨middle, hrun, hwrote⟩ | ⟨fault, tree', hrun, hgrows⟩
    · rw [run_writeModules_of_ok rest hrun]
      rcases ih middle with ⟨tree', hrest, hfiles⟩ | ⟨before, failed, after, fault, tree', rfl, hrest, hstops⟩
      · refine Or.inl ⟨tree', ?_, ?_⟩
        · rw [hrest]
          rfl
        · rw [hfiles, filesAfter_cons hwrote]
      · refine Or.inr ⟨first :: before, failed, after, fault, tree', rfl, ?_, hstops.cons hrun hwrote⟩
        rw [hrest]
        rfl
    · exact Or.inr ⟨[], first, rest, fault, tree', rfl, run_writeModules_of_error rest hrun,
        ⟨tree, rfl, hrun⟩, hgrows.files⟩

end FileTree

namespace Generator

/-- If a schema has a fault, nothing is written.  Otherwise all modules are written, in order, and their paths are the
answer, or those in front of the first one that cannot be written. -/
theorem emit_all_or_nothing (generator : Generator) (dir : String) (table : SymbolTable) (tree : FileTree) :
    (∃ e table', generator.modules.run table = (.error e, table') ∧
      (generator.emit (m := StateM FileTree) dir table).run tree = ((.error (.generation e), table'), tree)) ∨
    ∃ modules table', generator.modules.run table = (.ok modules, table') ∧
      ((∃ tree', (generator.emit (m := StateM FileTree) dir table).run tree =
          ((.ok (modules.map (·.target dir)), table'), tree') ∧
          tree'.contentAt = tree.filesAfter dir modules) ∨
        ∃ before failed after fault tree', modules = before ++ failed :: after ∧
          (generator.emit (m := StateM FileTree) dir table).run tree =
            ((.error (.unwritable (failed.target dir) fault), table'), tree') ∧
          tree.StopsAt dir before failed fault tree') := by
  unfold emit
  rcases generator.modules.run table with ⟨e | modules, table'⟩
  · exact Or.inl ⟨e, table', rfl, rfl⟩
  · refine Or.inr ⟨modules, table', rfl, ?_⟩
    dsimp only
    rcases FileTree.writeModules_cases dir modules tree with
      ⟨tree', hrun, hfiles⟩ | ⟨before, failed, after, fault, tree', hmodules, hrun, hstops⟩
    · exact Or.inl ⟨tree', FileTree.run_bind_of_run hrun, hfiles⟩
    · exact Or.inr ⟨before, failed, after, fault, tree', hmodules, FileTree.run_bind_of_run hrun, hstops⟩

end Generator

end ProtoClass
