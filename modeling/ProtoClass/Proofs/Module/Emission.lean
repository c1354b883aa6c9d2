import ProtoClass.Module.Emission
import ProtoClass.Proofs.Files.Tree
import ProtoClass.Proofs.Module.Contents

/-!
# What is on disk after the modules were written

Modules are written one after another (`run_writeModules_of_ok`).  A module stays on disk unless a later one is written
in its place, and every message and enum stands in a module (`emit_keeps_last`).  The names of schema files can be
different and still lead to one place: then only the last of their modules is on disk (`homonyms_lost`).
-/

namespace ProtoClass

/-- Where a module is written. -/
def GeneratedModule.target (generated : GeneratedModule) (dir : String) : String :=
  joinPath dir generated.path

namespace FileTree

variable {tree tree' : FileTree} {dir : String} {written : List String}

theorem run_bind_of_run {α β : Type} {step : StateM FileTree α} {next : α → StateM FileTree β} {a : α}
    (h : step.run tree = (a, tree')) : (step >>= next).run tree = (next a).run tree' := by
  rw [StateT.run_bind, h]
  rfl

theorem run_createDirs (tree : FileTree) (path : String) :
    (FileStore.createDirs (m := StateM FileTree) path).run tree = tree.createDirs path := rfl

theorem run_writeFile (tree : FileTree) (path : String) (content : ByteArray) :
    (FileStore.writeFile (m := StateM FileTree) path content).run tree =
      match tree.writeFile path content with
      | .ok tree' => (.ok (), tree')
      | .error fault => (.error fault, tree) := rfl

/-- A text file is written, or it is not and then no file is different. -/
theorem writeText_cases (path text : String) (tree : FileTree) :
    (∃ tree', (writeText (m := StateM FileTree) path text).run tree = (.ok (), tree') ∧
        Wrote tree path text.toUTF8 tree') ∨
      ∃ fault tree', (writeText (m := StateM FileTree) path text).run tree = (.error fault, tree') ∧
        Grows tree tree' := by
  have hgrows := tree.grows_createDirs (parentPath path)
  unfold writeText
  rcases hdirs : tree.createDirs (parentPath path) with ⟨fault | ⟨⟩, middle⟩ <;> rw [hdirs] at hgrows
  · rw [run_bind_of_run ((run_createDirs _ _).trans hdirs)]
    exact Or.inr ⟨fault, middle, rfl, hgrows⟩
  · rw [run_bind_of_run ((run_createDirs _ _).trans hdirs)]
    dsimp only
    rw [run_writeFile]
    rcases hwrite : middle.writeFile path text.toUTF8 with fault | tree'
    · exact Or.inr ⟨fault, middle, rfl, hgrows⟩
    · exact Or.inl ⟨tree', rfl, (wrote_of_writeFile hwrite).after hgrows⟩

section Run

variable {first : GeneratedModule} {middle : FileTree}

/-- Writing stops at a module that cannot be written. -/
theorem run_writeModules_of_error {fault : FileFault} (rest : List GeneratedModule)
    (h : (writeText (m := StateM FileTree) (first.target dir) first.contents).run tree = (.error fault, middle)) :
    (writeModules (m := StateM FileTree) dir (first :: rest)).run tree =
      (.error (.unwritable (first.target dir) fault), middle) := by
  unfold writeModules
  exact run_bind_of_run h

/-- To write modules is to write the first one and then the others. -/
theorem run_writeModules_of_ok (rest : List GeneratedModule)
    (h : (writeText (m := StateM FileTree) (first.target dir) first.contents).run tree = (.ok (), middle)) :
    (writeModules (m := StateM FileTree) dir (first :: rest)).run tree =
      (((writeModules (m := StateM FileTree) dir rest).run middle).1.map (first.target dir :: ·),
        ((writeModules (m := StateM FileTree) dir rest).run middle).2) := by
  conv_lhs => unfold writeModules
  refine (run_bind_of_run h).trans ?_
  rcases hrest : (writeModules (m := StateM FileTree) dir rest).run middle with ⟨e | others, last⟩
  · exact run_bind_of_run hrest
  · exact run_bind_of_run hrest

end Run

theorem writeModules_cons {first : GeneratedModule} {rest : List GeneratedModule}
    (h : (writeModules (m := StateM FileTree) dir (first :: rest)).run tree = (.ok written, tree')) :
    ∃ middle others, Wrote tree (first.target dir) first.contents.toUTF8 middle ∧
      (writeModules (m := StateM FileTree) dir rest).run middle = (.ok others, tree') ∧
      written = first.target dir :: others := by
  rcases writeText_cases (first.target dir) first.contents tree with ⟨middle, hrun, hwrote⟩ | ⟨fault, middle, hrun, _⟩
  · rw [run_writeModules_of_ok rest hrun] at h
    rcases hrest : (writeModules (m := StateM FileTree) dir rest).run middle with ⟨e | others, last⟩ <;> rw [hrest] at h
    · cases h
    · cases h
      exact ⟨middle, others, hwrote, hrest, rfl⟩
  · rw [run_writeModules_of_error rest hrun] at h
    cases h

/-- A module of a list, with no module after it that leads to the same place. -/
def LastAt (tree : FileTree) (dir : String) (modules : List GeneratedModule) (generated : GeneratedModule) : Prop :=
  ∃ before after, modules = before ++ generated :: after ∧
    ∀ later ∈ after, tree.place (later.target dir) ≠ tree.place (generated.target dir)

/-- The tree after modules were written: the last module at a place is there, and all else is as it was. -/
structure WroteAll (tree : FileTree) (dir : String) (modules : List GeneratedModule) (written : List String)
    (tree' : FileTree) : Prop where
  written : written = modules.map (·.target dir)
  later : Extends tree tree'
  reaches : ∀ generated ∈ modules, tree'.Reaches (generated.target dir)
  others : ∀ full node, (∀ generated ∈ modules, full ≠ tree.place (generated.target dir)) →
    tree.node? full = some node → tree'.node? full = some node
  last : ∀ generated, LastAt tree dir modules generated →
    tree'.node? (tree.place (generated.target dir)) = some (.file generated.contents.toUTF8)

theorem WroteAll.cons {middle : FileTree} {first : GeneratedModule} {rest : List GeneratedModule}
    (hfirst : Wrote tree (first.target dir) first.contents.toUTF8 middle)
    (hrest : WroteAll middle dir rest written tree') :
    WroteAll tree dir (first :: rest) (first.target dir :: written) tree' where
  written := by
    rw [hrest.written, List.map_cons]
  later := hfirst.later.trans hrest.later
  reaches := List.forall_mem_cons.2 ⟨hfirst.reaches.mono hrest.later, hrest.reaches⟩
  others := by
    intro full node hfull hnode
    obtain ⟨hne, hnes⟩ := List.forall_mem_cons.1 hfull
    refine hrest.others full node (fun generated hgenerated => ?_) (hfirst.others full node hne hnode)
    rw [hfirst.later.place_eq]
    exact hnes generated hgenerated
  last := by
    rintro generated ⟨before, after, hsplit, hafter⟩
    rcases before with _ | ⟨_, before⟩
    · -- the first module is not written over
      cases hsplit
      refine hrest.others _ _ (fun later hlater => ?_) hfirst.written
      rw [hfirst.later.place_eq]
      exact (hafter later hlater).symm
    · cases hsplit
      rw [← hfirst.later.place_eq]
      refine hrest.last generated ⟨before, after, rfl, fun later hlater => ?_⟩
      rw [hfirst.later.place_eq, hfirst.later.place_eq]
      exact hafter later hlater

theorem wroteAll_of_writeModules {modules : List GeneratedModule}
    (h : (writeModules (m := StateM FileTree) dir modules).run tree = (.ok written, tree')) :
    WroteAll tree dir modules written tree' := by
  induction modules generalizing tree written with
  | nil =>
    cases h
    refine ⟨rfl, Extends.refl _, by simp, fun _ _ _ hnode => hnode, ?_⟩
    rintro generated ⟨before, after, hsplit, _⟩
    simp at hsplit
  | cons first rest ih =>
    obtain ⟨middle, others, hfirst, hrest, rfl⟩ := writeModules_cons h
    exact (ih hrest).cons hfirst

/-- Among the modules that lead to one place there is a last one. -/
theorem exists_lastAt (tree : FileTree) (dir : String) {modules : List GeneratedModule} {generated : GeneratedModule}
    (h : generated ∈ modules) :
    ∃ last ∈ modules, LastAt tree dir modules last ∧
      tree.place (last.target dir) = tree.place (generated.target dir) := by
  -- the last one is the first one from the end
  have hsome : (modules.reverse.find? fun other =>
      tree.place (other.target dir) = tree.place (generated.target dir)).isSome := by
    rw [List.find?_isSome]
    exact ⟨generated, List.mem_reverse.2 h, by simp⟩
  obtain ⟨last, hlast⟩ := Option.isSome_iff_exists.1 hsome
  obtain ⟨hplace, after, before, hsplit, hafter⟩ := List.find?_eq_some_iff_append.1 hlast
  rw [decide_eq_true_eq] at hplace
  have hmodules : modules = before.reverse ++ last :: after.reverse := by
    simpa using congrArg List.reverse hsplit
  refine ⟨last, by simp [hmodules], ⟨before.reverse, after.reverse, hmodules, fun later hlater => ?_⟩, hplace⟩
  rw [hplace]
  simpa using hafter later (List.mem_reverse.1 hlater)

/-- On the path of a module one reads the last module that leads to the same place. -/
theorem WroteAll.readFile {modules : List GeneratedModule} {generated last : GeneratedModule}
    (h : WroteAll tree dir modules written tree') (hgenerated : generated ∈ modules)
    (hlast : LastAt tree dir modules last)
    (hplace : tree.place (last.target dir) = tree.place (generated.target dir)) :
    tree'.readFile (generated.target dir) = .ok last.contents.toUTF8 := by
  refine (h.reaches generated hgenerated).readFile ?_
  rw [h.later.place_eq, ← hplace]
  exact h.last last hlast

end FileTree

namespace Generator

open FileTree (LastAt)

variable {generator : Generator} {dir : String} {table table' : SymbolTable} {tree tree' : FileTree}
  {written : List String}

/-- To emit modules is to make them and to write them. -/
theorem wroteAll_of_emit
    (h : (generator.emit (m := StateM FileTree) dir table).run tree = ((.ok written, table'), tree')) :
    ∃ decls, generator.moduleDecls.run table = (.ok decls, table') ∧
      generator.modules.run table = (.ok (decls.map ModuleDecl.render), table') ∧
      tree.WroteAll dir (decls.map ModuleDecl.render) written tree' := by
  unfold emit at h
  rcases hmodules : generator.modules.run table with ⟨e | modules, middle⟩ <;> rw [hmodules] at h
  · cases h
  dsimp only at h
  rcases hwrite : (writeModules (m := StateM FileTree) dir modules).run tree with ⟨result, last⟩
  rw [FileTree.run_bind_of_run hwrite] at h
  cases h
  obtain ⟨decls, middle, hdecls, hrender⟩ := Gen.run_bind_eq_ok hmodules
  cases hrender
  exact ⟨decls, hdecls, rfl, FileTree.wroteAll_of_writeModules hwrite⟩

/-- What is on disk once the modules `decls` of a schema were written below a directory. -/
structure Emitted (generator : Generator) (dir : String) (decls : List ModuleDecl) (written : List String)
    (tree tree' : FileTree) : Prop where
  written : written = (decls.map ModuleDecl.render).map (·.target dir)
  /-- a module is on disk if no later one is written in its place -/
  kept : ∀ generated, LastAt tree dir (decls.map ModuleDecl.render) generated →
    tree'.readFile (generated.target dir) = .ok generated.contents.toUTF8
  /-- and otherwise another one is there -/
  replaced : ∀ generated ∈ decls.map ModuleDecl.render, ∃ last ∈ decls.map ModuleDecl.render,
    LastAt tree dir (decls.map ModuleDecl.render) last ∧
      tree.place (last.target dir) = tree.place (generated.target dir) ∧
      tree'.readFile (generated.target dir) = .ok last.contents.toUTF8
  messages : ∀ entry ∈ generator.catalog.messages, ∃ decl ∈ decls, decl.source = entry.file.name ∧
    ∃ named ∈ decl.classes, named.decl.identity = entry.identity ∧ decl.Shows named.render
  enums : ∀ entry ∈ generator.catalog.enums, ∃ decl ∈ decls, decl.source = entry.file.name ∧
    ∃ enum ∈ decl.enums, enum.identity = entry.identity ∧ enum.decl = entry.decl ∧ decl.Shows enum.render

/-- When the modules have been written, each of them is on disk with exactly its text, unless a later one has the same
place; and the modules declare every message and enum. -/
theorem emit_keeps_last (generator : Generator) (dir : String) (table table' : SymbolTable) (tree tree' : FileTree)
    (written : List String)
    (h : (generator.emit (m := StateM FileTree) dir table).run tree = ((.ok written, table'), tree')) :
    ∃ decls, generator.moduleDecls.run table = (.ok decls, table') ∧
      generator.modules.run table = (.ok (decls.map ModuleDecl.render), table') ∧
      generator.Emitted dir decls written tree tree' := by
  obtain ⟨decls, hdecls, hmodules, hwrote⟩ := wroteAll_of_emit h
  refine ⟨decls, hdecls, hmodules, hwrote.written, ?_, ?_, fun entry => exists_class hdecls,
    fun entry => exists_enum hdecls⟩
  · intro generated hlast
    obtain ⟨before, after, hsplit, _⟩ := id hlast
    exact hwrote.readFile (by simp [hsplit]) hlast rfl
  · intro generated hgenerated
    obtain ⟨last, hmem, hlast, hplace⟩ := FileTree.exists_lastAt tree dir hgenerated
    exact ⟨last, hmem, hlast, hplace, hwrote.readFile hgenerated hlast hplace⟩

/-- Two schema files with different names and one module path. -/
def homonyms : Generator where
  schema := ⟨[{ name := "a", messages := [{ name := "A" }] }, { name := "a.proto", messages := [{ name := "B" }] }]⟩
  config := {}

theorem exists_emit_homonyms :
    ∃ written table tree,
      (homonyms.emit (m := StateM FileTree) "out" {}).run .empty = ((.ok written, table), tree) := by
  have hok : ((homonyms.emit (m := StateM FileTree) "out" {}).run .empty).1.1.isOk = true := by
    decide +kernel
  rcases hrun : (homonyms.emit (m := StateM FileTree) "out" {}).run .empty with ⟨⟨e | written, table⟩, tree⟩
  · rw [hrun] at hok
    cases hok
  · exact ⟨written, table, tree, rfl⟩

theorem emit_keeps_last_homonyms :
    ∃ written table tree, (homonyms.emit (m := StateM FileTree) "out" {}).run .empty = ((.ok written, table), tree) ∧
      ∃ decls, homonyms.moduleDecls.run {} = (.ok decls, table) ∧
        homonyms.modules.run {} = (.ok (decls.map ModuleDecl.render), table) ∧
        homonyms.Emitted "out" decls written .empty tree := by
  obtain ⟨written, table, tree, hrun⟩ := exists_emit_homonyms
  exact ⟨written, table, tree, hrun, emit_keeps_last homonyms "out" {} table .empty tree written hrun⟩

/-- A module is lost if a later one has its path: writing succeeds, and what is on disk is not the module. -/
theorem homonyms_lost :
    ∃ written table tree modules,
      (homonyms.emit (m := StateM FileTree) "out" {}).run .empty = ((.ok written, table), tree) ∧
        homonyms.modules.run {} = (.ok modules, table) ∧
        ∃ generated ∈ modules, tree.readFile (generated.target "out") ≠ .ok generated.contents.toUTF8 := by
  obtain ⟨written, table, tree, hrun⟩ := exists_emit_homonyms
  obtain ⟨decls, hdecls, hmodules, hwrote⟩ := wroteAll_of_emit hrun
  -- the two modules have one path and different texts
  have hpaths : (homonyms.modules.run {}).1.toOption.map (fun modules =>
      (modules.map (·.path), decide (modules.map (·.contents)).Nodup)) = some (["a_pb.ts", "a_pb.ts"], true) := by
    decide +kernel
  rw [hmodules] at hpaths
  obtain ⟨hpath, hnodup⟩ := Prod.mk.inj (Option.some.inj hpaths)
  generalize decls.map ModuleDecl.render = modules at hmodules hwrote hpath hnodup
  obtain ⟨first, rest, rfl, hfirst, hpath⟩ := List.map_eq_cons_iff.1 hpath
  obtain ⟨second, rest, rfl, hsecond, hpath⟩ := List.map_eq_cons_iff.1 hpath
  obtain rfl := List.map_eq_nil_iff.1 hpath
  have hne : first.contents ≠ second.contents := by simpa using hnodup
  refine ⟨written, table, tree, _, hrun, hmodules, first, List.mem_cons_self, ?_⟩
  have htarget : second.target "out" = first.target "out" := by
    rw [GeneratedModule.target, GeneratedModule.target, hfirst, hsecond]
  have hlast : FileTree.empty.LastAt "out" [first, second] second := ⟨[first], [], rfl, by simp⟩
  rw [hwrote.readFile List.mem_cons_self hlast (by rw [htarget])]
  intro heq
  exact hne (String.toByteArray_inj.1 (Except.ok.inj heq)).symm

end Generator

end ProtoClass
