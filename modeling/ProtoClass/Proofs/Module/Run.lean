import ProtoClass.Proofs.Module.Generation

/-!
# Making all modules

Modules are made one after another, each with the imports that its own references need.  A module is as it should be
when it is made (`moduleDecl_built`), and the modules after it leave it so, because they import into other files
(`Built.of_imported`, `moduleDecls_built`).
-/

namespace ProtoClass

open SymbolTable

/-- A table in which some more files have imports. -/
structure Imported (files : List String) (table table' : SymbolTable) : Prop where
  grows : Extends table table'
  wellFormed : table.WellFormed → table'.WellFormed
  localsFree : ∀ file, LocalsFree table file → LocalsFree table' file
  elsewhere : ∀ file, file ∉ files → table'.importsOf file = table.importsOf file

theorem Imported.refl (table : SymbolTable) : Imported [] table table :=
  ⟨Extends.refl table, id, fun _ h => h, fun _ _ => rfl⟩

theorem Imported.trans {files files' : List String} {table table' table'' : SymbolTable}
    (h : Imported files table table') (h' : Imported files' table' table'') :
    Imported (files ++ files') table table'' where
  grows := h.grows.trans h'.grows
  wellFormed := fun hwell => h'.wellFormed (h.wellFormed hwell)
  localsFree := fun file hfree => h'.localsFree file (h.localsFree file hfree)
  elsewhere := by
    intro file hfile
    rw [List.mem_append, not_or] at hfile
    rw [h'.elsewhere file hfile.2, h.elsewhere file hfile.1]

theorem SymbolTable.Referenced.imported {file : String} {keys : List SymbolKey} {table table' : SymbolTable}
    (h : Referenced (.file file) keys table table') : Imported [file] table table' where
  grows := h.grows
  wellFormed := h.wellFormed
  localsFree := h.localsFree
  elsewhere := by
    intro other hother
    refine h.elsewhere other ?_
    rintro ⟨⟩
    exact hother List.mem_cons_self

/-- A module is made of the declarations of a file, and of imports for what they refer to. -/
structure Catalog.Built (catalog : Catalog) (table : SymbolTable) (file : FileDecl) (index : Nat) (decl : ModuleDecl) :
    Prop where
  source : decl.source = file.name
  imports : decl.imports = table.importList file.name
  decls : ∀ names, table.Respects (.file file.name) names → catalog.FileShows index names decl.enums decl.classes
  settled : ∀ key ∈ catalog.fileKeys index, ∃ name, NamedIn table file.name key name
  only : ∀ key name, (table.importsOf file.name).localNames.lookup key = some name → key ∈ catalog.fileKeys index

namespace Catalog

variable {catalog : Catalog} {table table' : SymbolTable}

theorem Built.of_imported {files : List String} {file : FileDecl} {index : Nat} {decl : ModuleDecl}
    (h : catalog.Built table file index decl) (himported : Imported files table table') (hfile : file.name ∉ files) :
    catalog.Built table' file index decl where
  source := h.source
  imports := by
    rw [h.imports, importList, importList, himported.elsewhere file.name hfile]
  decls := fun names hnames => h.decls names (hnames.of_extends himported.grows)
  settled := by
    intro key hkey
    obtain ⟨name, hname⟩ := h.settled key hkey
    exact ⟨name, hname.mono himported.grows⟩
  only := by
    rw [himported.elsewhere file.name hfile]
    exact h.only

variable (hcatalog : catalog.Coherent) (hnumbers : ∀ entry ∈ catalog.messages, entry.decl.MembersKeepNumbers)
  (config : Config)

include hcatalog hnumbers

/-- A module that is made for a file without imports imports what it refers to. -/
theorem moduleDecl_built {file : FileDecl} {index : Nat} {decl : ModuleDecl} (hregistered : catalog.Registered table)
    (hempty : table.importsOf file.name = {})
    (hrun : (catalog.moduleDecl config file index).run table = (.ok decl, table')) :
    catalog.Built table' file index decl ∧ Imported [file.name] table table' := by
  rcases fileDecls_refers hcatalog hnumbers ⟨.file file.name, config⟩ index table (hregistered.fileKeys index) with
    ⟨_, hdecls, href, hshows⟩ | ⟨_, hdecls, _, _⟩
  · unfold moduleDecl at hrun
    rw [Gen.run_bind_of_ok hdecls] at hrun
    cases hrun
    refine ⟨⟨rfl, rfl, hshows, href.settled, ?_⟩, href.imported⟩
    intro key name hname
    rcases href.only _ _ _ hname with hold | hkey
    · rw [hempty] at hold
      cases hold
    · exact hkey
  · unfold moduleDecl at hrun
    rw [Gen.run_bind_of_error hdecls] at hrun
    cases hrun

/-- All modules are as they should be once they are made, if no two files have one name. -/
theorem moduleDecls_built {items : List (FileDecl × Nat)} {decls : List ModuleDecl}
    (hregistered : catalog.Registered table) (hempty : ∀ item ∈ items, table.importsOf item.1.name = {})
    (hfiles : (items.map (·.1.name)).Nodup)
    (hrun : (items.mapM fun item => catalog.moduleDecl config item.1 item.2).run table = (.ok decls, table')) :
    List.Forall₂ (fun item decl => catalog.Built table' item.1 item.2 decl) items decls ∧
      Imported (items.map (·.1.name)) table table' := by
  induction items generalizing table decls with
  | nil =>
    cases hrun
    exact ⟨List.Forall₂.nil, Imported.refl _⟩
  | cons item rest ih =>
    obtain ⟨hfirst, hrest⟩ := List.nodup_cons.1 hfiles
    rw [List.mapM_cons] at hrun
    obtain ⟨decl, middle, hdecl, hrun⟩ := Gen.run_bind_eq_ok hrun
    obtain ⟨others, last, hothers, hrun⟩ := Gen.run_bind_eq_ok hrun
    cases hrun
    obtain ⟨hbuilt, himported⟩ := moduleDecl_built hcatalog hnumbers config hregistered
      (hempty item List.mem_cons_self) hdecl
    -- the files still to come have no imports yet
    have hempty' : ∀ other ∈ rest, middle.importsOf other.1.name = {} := by
      intro other hother
      rw [himported.elsewhere, hempty other (List.mem_cons_of_mem _ hother)]
      intro hmem
      exact hfirst (List.mem_map.2 ⟨other, hother, List.mem_singleton.1 hmem⟩)
    obtain ⟨hbuilts, himported'⟩ := ih (hregistered.of_extends himported.grows) hempty' hrest hothers
    exact ⟨List.Forall₂.cons (hbuilt.of_imported himported' hfirst) hbuilts, himported.trans himported'⟩

end Catalog

end ProtoClass
