import ProtoClass.Proofs.Module.Run

/-!
# Modules refer to what modules declare

The modules made for a schema fit together (`modules_linked`): whatever type a field refers to, the name in its place is
the one its own module declares it under or a local name that its module imports it as, and nothing else is imported.

* What a file declares stands in the module of the file, under the name in the symbol table (`Made.declares`,
  `Made.exists_of_declares`).
* If a field after a member of a oneof has the member's number, the class shows that field in the member's place, and
  the type of the member is lost (`shadowed_not_linked`).
-/

namespace ProtoClass

open SymbolTable

/-! ### What it means for modules to fit together -/

/-- A module declares a symbol under a name. -/
def ModuleDecl.Declares (decl : ModuleDecl) (key : SymbolKey) (name : String) : Prop :=
  match key.kind with
  | .enum => ∃ enum ∈ decl.enums, enum.identity = key.identity ∧ enum.name = name
  | .message => ∃ named ∈ decl.classes, named.decl.identity = key.identity ∧ named.typeName = name
  | .constructorClass => ∃ named ∈ decl.classes, named.decl.identity = key.identity ∧ named.decl.name = name

/-- A field of a message in `file` refers to a symbol. -/
def Catalog.ReferredIn (catalog : Catalog) (file : String) (key : SymbolKey) : Prop :=
  ∃ entry ∈ catalog.messages, entry.file.name = file ∧
    ∃ field ∈ entry.decl.fields, key ∈ catalog.keysOf entry.identity field.type

/-- A module fits into a list of modules, with `names` for the symbols that it declares or refers to. -/
structure ModuleDecl.Linked (catalog : Catalog) (decls : List ModuleDecl) (names : SymbolKey → String)
    (decl : ModuleDecl) : Prop where
  enums : List.Forall₂ (fun entry (enum : NamedEnum) => enum.identity = entry.identity ∧ enum.decl = entry.decl)
    (catalog.enums.filter (·.file.name == decl.source)) decl.enums
  /-- its classes are those of the messages of its file, and show all their fields -/
  classes : List.Forall₂ (fun entry (named : NamedClass) =>
      named.decl.Shows names entry.identity (catalog.fieldKeys entry))
    (catalog.messages.filter (·.file.name == decl.source)) decl.classes
  /-- a symbol that a field refers to is declared in the module of its file; the name it has here is that one, or the
  one it is imported under, which is free of all other names -/
  references : ∀ key, catalog.ReferredIn decl.source key →
    ∃ origin ∈ decls, catalog.DeclaredIn origin.source key ∧ ∃ name, origin.Declares key name ∧
      (origin.source = decl.source ∧ names key = name ∨
        origin.source ≠ decl.source ∧ Holds decl.imports origin.source (importSpecifier name (names key)) ∧
          (∀ other declared, decl.Declares other declared → names key ≠ declared) ∧
          ∀ other, catalog.ReferredIn decl.source other → other ≠ key → names key ≠ names other)
  /-- nothing is imported but what fields refer to -/
  imports : ∀ source specifier, Holds decl.imports source specifier →
    source ≠ decl.source ∧ ∃ key, catalog.ReferredIn decl.source key ∧
      ∃ origin ∈ decls, origin.source = source ∧ ∃ name, origin.Declares key name ∧
        specifier = importSpecifier name (names key)

/-- The modules made by a fresh generator fit together, and `table` holds the imports of the modules and no others. -/
def Generator.Linked (generator : Generator) (modules : List GeneratedModule) (table : SymbolTable) : Prop :=
  ∃ decls, generator.moduleDecls.run {} = (.ok decls, table) ∧ modules = decls.map ModuleDecl.render ∧
    decls.map (·.source) = (generator.schema.files.filter fun file => !file.isEmpty).map (·.name) ∧
    (∀ decl ∈ decls, decl.imports = table.importList decl.source ∧
      ∃ names, decl.Linked generator.catalog decls names) ∧
    ∀ file, file ∉ decls.map (·.source) → table.importList file = []

/-! ### What the code for a file mentions -/

theorem FileDecl.not_isEmpty_of_mem {file : FileDecl} {d : Declaration} (h : d ∈ file.declarations) :
    file.isEmpty = false := by
  rw [Bool.eq_false_iff]
  intro hempty
  simp only [isEmpty, Bool.and_eq_true, List.isEmpty_iff] at hempty
  simp [declarations, hempty, MessageDecl.listDeclarations] at h

namespace Catalog

variable {schema : Schema} {file : FileDecl} {index : Nat} {key : SymbolKey}

theorem mem_messagesOf {entry : Entry MessageDecl} (hfile : (file, index) ∈ schema.files.zipIdx)
    (h : entry ∈ (ofSchema schema).messagesOf index) : entry ∈ (ofSchema schema).messages ∧ entry.file = file :=
  mem_of_mem_filter_index (fun _ hmem => (mem_messages_ofSchema hmem).1) hfile h

theorem mem_enumsOf {entry : Entry EnumDecl} (hfile : (file, index) ∈ schema.files.zipIdx)
    (h : entry ∈ (ofSchema schema).enumsOf index) : entry ∈ (ofSchema schema).enums ∧ entry.file = file :=
  mem_of_mem_filter_index (fun _ hmem => (mem_enums_ofSchema hmem).1) hfile h

theorem mem_fieldKeys_iff {catalog : Catalog} {entry : Entry MessageDecl} :
    key ∈ (catalog.fieldKeys entry).flatMap Prod.snd ↔
      ∃ field ∈ entry.decl.fields, key ∈ catalog.keysOf entry.identity field.type := by
  simp [fieldKeys]

/-- A symbol in the code for a file is one that the file declares or one that a field in it refers to. -/
theorem declaredIn_or_referredIn (hfile : (file, index) ∈ schema.files.zipIdx)
    (h : key ∈ (ofSchema schema).fileKeys index) :
    (ofSchema schema).DeclaredIn file.name key ∨ (ofSchema schema).ReferredIn file.name key := by
  rcases List.mem_append.1 h with h | h
  · obtain ⟨entry, hentry, hkey⟩ := List.mem_flatMap.1 h
    obtain rfl := List.mem_singleton.1 hkey
    obtain ⟨hmem, rfl⟩ := mem_enumsOf hfile hentry
    exact Or.inl ⟨entry, hmem, rfl, rfl⟩
  · obtain ⟨entry, hentry, hkey⟩ := List.mem_flatMap.1 h
    obtain ⟨hmem, rfl⟩ := mem_messagesOf hfile hentry
    rcases List.mem_cons.1 hkey with rfl | hkey
    · exact Or.inl ⟨entry, hmem, rfl, rfl⟩
    · rcases List.mem_cons.1 hkey with rfl | hkey
      · exact Or.inl ⟨entry, hmem, rfl, rfl⟩
      · exact Or.inr ⟨entry, hmem, rfl, mem_fieldKeys_iff.1 hkey⟩

theorem mem_fileKeys_of_referredIn (hfiles : (schema.files.map (·.name)).Nodup)
    (hfile : (file, index) ∈ schema.files.zipIdx) (h : (ofSchema schema).ReferredIn file.name key) :
    key ∈ (ofSchema schema).fileKeys index := by
  obtain ⟨entry, hmem, hname, hkey⟩ := h
  have hindex := Schema.index_eq_of_name hfiles (mem_messages_ofSchema hmem).1 hfile hname
  refine List.mem_append_right _ (List.mem_flatMap.2 ⟨entry, List.mem_filter.2 ⟨hmem, by simp [hindex]⟩, ?_⟩)
  exact List.mem_cons_of_mem _ (List.mem_cons_of_mem _ (mem_fieldKeys_iff.2 hkey))

end Catalog

/-! ### The modules of a run -/

theorem SymbolTable.Respects.eq_of_own {table : SymbolTable} {file : String} {names : SymbolKey → String}
    (h : table.Respects (.file file) names) {key : SymbolKey} {s : Symbol} (hs : table.find? key = some s)
    (hfile : s.file = file) : names key = s.name :=
  h key s.name ⟨s, hs, Or.inl ⟨hfile, rfl⟩⟩

namespace Generator

variable {generator : Generator} {decls : List ModuleDecl} {table : SymbolTable}

/-- The files that get a module, with their indices. -/
def items (generator : Generator) : List (FileDecl × Nat) :=
  generator.schema.files.zipIdx.filter fun (file, _) => !file.isEmpty

/-- Modules made one after another by a fresh generator, with the table they leave behind. -/
structure Made (generator : Generator) (decls : List ModuleDecl) (table : SymbolTable) : Prop where
  files : (generator.schema.files.map (·.name)).Nodup
  wellFormed : table.WellFormed
  registered : generator.catalog.Registered table
  built : List.Forall₂ (fun item decl => generator.catalog.Built table item.1 item.2 decl) generator.items decls
  localsFree : ∀ file, LocalsFree table file
  elsewhere : ∀ file, file ∉ generator.items.map (·.1.name) → table.importsOf file = {}

theorem map_fst_items (generator : Generator) :
    generator.items.map Prod.fst = generator.schema.files.filter fun file => !file.isEmpty := by
  conv_rhs => rw [← List.zipIdx_map_fst 0 generator.schema.files, List.filter_map]
  rfl

theorem map_name_items (generator : Generator) :
    generator.items.map (·.1.name) = (generator.schema.files.filter fun file => !file.isEmpty).map (·.name) := by
  rw [← map_fst_items, List.map_map]
  rfl

/-- The files that get a module have different names if all files do. -/
theorem nodup_names_items (generator : Generator) (hfiles : (generator.schema.files.map (·.name)).Nodup) :
    (generator.items.map (·.1.name)).Nodup := by
  rw [map_name_items]
  exact hfiles.sublist (List.filter_sublist.map _)

theorem mem_items {file : FileDecl} {index : Nat} {d : Declaration}
    (hfile : (file, index) ∈ generator.schema.files.zipIdx) (hd : d ∈ file.declarations) :
    (file, index) ∈ generator.items :=
  List.mem_filter.2 ⟨hfile, by simp [FileDecl.not_isEmpty_of_mem hd]⟩

theorem made_of_run (hfiles : (generator.schema.files.map (·.name)).Nodup)
    (hnumbers : ∀ entry ∈ generator.catalog.messages, entry.decl.MembersKeepNumbers)
    (hrun : generator.moduleDecls.run {} = (.ok decls, table)) : generator.Made decls table := by
  have hcatalog := Catalog.coherent_ofSchema generator.schema
  obtain ⟨table₀, hreserve, hwell, hregistered, hempty⟩ := Catalog.run_reserve hcatalog
  have hitems := generator.nodup_names_items hfiles
  have hrun' : (generator.items.mapM fun item => generator.catalog.moduleDecl generator.config item.1 item.2).run
      table₀ = (.ok decls, table) := (Gen.run_bind_of_ok hreserve).symm.trans hrun
  obtain ⟨hbuilt, himported⟩ := Catalog.moduleDecls_built hcatalog hnumbers generator.config hregistered
    (fun item _ => hempty item.1.name) hitems hrun'
  refine ⟨hfiles, himported.wellFormed hwell, hregistered.of_extends himported.grows, hbuilt, fun file => ?_,
    fun file hfile => ?_⟩
  · refine himported.localsFree file ?_
    intro key name hname
    rw [hempty] at hname
    cases hname
  · rw [himported.elsewhere file hfile, hempty]

namespace Made

variable (h : generator.Made decls table)

include h

theorem map_source : decls.map (·.source) = generator.items.map (·.1.name) := by
  have hbuilt := h.built
  clear h
  generalize generator.items = items at hbuilt
  induction hbuilt with
  | nil => rfl
  | cons hfirst _ ih => rw [List.map_cons, List.map_cons, hfirst.source, ih]

theorem module_of_file {file : FileDecl} {index : Nat} {d : Declaration}
    (hfile : (file, index) ∈ generator.schema.files.zipIdx) (hd : d ∈ file.declarations) :
    ∃ decl ∈ decls, generator.catalog.Built table file index decl :=
  exists_right_of_forall₂ h.built (mem_items hfile hd)

/-- What a file declares stands in the module of the file, under the name in the table. -/
theorem declares {file : String} {key : SymbolKey} (hkey : generator.catalog.DeclaredIn file key) :
    ∃ origin ∈ decls, origin.source = file ∧
      ∃ s, table.find? key = some s ∧ s.file = file ∧ origin.Declares key s.name := by
  obtain ⟨s, hs, hsfile⟩ := h.registered.exists_symbol hkey
  obtain ⟨names, hnames⟩ := table.exists_respects file
  have hname := hnames.eq_of_own hs hsfile
  obtain ⟨identity, kind⟩ := key
  cases kind with
  | enum =>
    obtain ⟨entry, hentry, rfl, rfl⟩ := hkey
    obtain ⟨hfile, d, hd, _⟩ := Catalog.mem_enums_ofSchema hentry
    obtain ⟨origin, horigin, hbuilt⟩ := h.module_of_file hfile hd
    obtain ⟨enum, henum, rfl⟩ := exists_right_of_forall₂ (hbuilt.decls names hnames).enums
      (List.mem_filter.2 ⟨hentry, by simp⟩)
    exact ⟨origin, horigin, hbuilt.source, s, hs, hsfile, _, henum, rfl, hname⟩
  | message =>
    obtain ⟨entry, hentry, rfl, rfl⟩ := hkey
    obtain ⟨hfile, d, hd, _⟩ := Catalog.mem_messages_ofSchema hentry
    obtain ⟨origin, horigin, hbuilt⟩ := h.module_of_file hfile hd
    obtain ⟨named, hnamed, htype, hshows⟩ := exists_right_of_forall₂ (hbuilt.decls names hnames).classes
      (List.mem_filter.2 ⟨hentry, by simp⟩)
    exact ⟨origin, horigin, hbuilt.source, s, hs, hsfile, named, hnamed, hshows.identity, htype.trans hname⟩
  | constructorClass =>
    obtain ⟨entry, hentry, rfl, rfl⟩ := hkey
    obtain ⟨hfile, d, hd, _⟩ := Catalog.mem_messages_ofSchema hentry
    obtain ⟨origin, horigin, hbuilt⟩ := h.module_of_file hfile hd
    obtain ⟨named, hnamed, htype, hshows⟩ := exists_right_of_forall₂ (hbuilt.decls names hnames).classes
      (List.mem_filter.2 ⟨hentry, by simp⟩)
    exact ⟨origin, horigin, hbuilt.source, s, hs, hsfile, named, hnamed, hshows.identity, hshows.name.trans hname⟩

/-- What stands in a module is declared by its file, and stands there under the name in the table. -/
theorem exists_of_declares {decl : ModuleDecl} (hdecl : decl ∈ decls) {key : SymbolKey} {name : String}
    (hdeclares : decl.Declares key name) :
    ∃ s, table.find? key = some s ∧ s.file = decl.source ∧ s.name = name := by
  obtain ⟨⟨file, index⟩, hitem, hbuilt⟩ := exists_left_of_forall₂ h.built hdecl
  have hfile := (List.mem_filter.1 hitem).1
  obtain ⟨names, hnames⟩ := table.exists_respects file.name
  have hshows := hbuilt.decls names hnames
  -- the symbol of an entry of the file is the file's own
  have hown : ∀ k, generator.catalog.DeclaredIn file.name k →
      ∃ s, table.find? k = some s ∧ s.file = decl.source ∧ s.name = names k := by
    intro k hk
    obtain ⟨s, hs, hsfile⟩ := h.registered.exists_symbol hk
    exact ⟨s, hs, hsfile.trans hbuilt.source.symm, (hnames.eq_of_own hs hsfile).symm⟩
  obtain ⟨identity, kind⟩ := key
  cases kind with
  | enum =>
    obtain ⟨enum, henum, rfl, rfl⟩ := hdeclares
    obtain ⟨entry, hentry, rfl⟩ := exists_left_of_forall₂ hshows.enums henum
    obtain ⟨hmem, rfl⟩ := Catalog.mem_enumsOf hfile hentry
    exact hown _ ⟨entry, hmem, rfl, rfl⟩
  | message =>
    obtain ⟨named, hnamed, rfl, rfl⟩ := hdeclares
    obtain ⟨entry, hentry, htype, hclass⟩ := exists_left_of_forall₂ hshows.classes hnamed
    obtain ⟨hmem, rfl⟩ := Catalog.mem_messagesOf hfile hentry
    rw [htype, hclass.identity]
    exact hown _ ⟨entry, hmem, rfl, rfl⟩
  | constructorClass =>
    obtain ⟨named, hnamed, rfl, rfl⟩ := hdeclares
    obtain ⟨entry, hentry, _, hclass⟩ := exists_left_of_forall₂ hshows.classes hnamed
    obtain ⟨hmem, rfl⟩ := Catalog.mem_messagesOf hfile hentry
    rw [hclass.name, hclass.identity]
    exact hown _ ⟨entry, hmem, rfl, rfl⟩

/-- A name that a module declares is declared in the table for its file. -/
theorem mem_declaredIn {decl : ModuleDecl} (hdecl : decl ∈ decls) {key : SymbolKey} {name : String}
    (hdeclares : decl.Declares key name) : name ∈ table.declaredIn decl.source := by
  obtain ⟨s, hs, hfile, hname⟩ := h.exists_of_declares hdecl hdeclares
  exact (h.wellFormed.declared _ _).2 ⟨s, (find?_eq_some hs).1, hfile, hname⟩

/-- A symbol that a field refers to stands in the module of the file that declares it. -/
theorem origin_of_referredIn {file : String} {key : SymbolKey} {s : Symbol}
    (hkey : generator.catalog.ReferredIn file key) (hs : table.find? key = some s) :
    ∃ origin ∈ decls, origin.source = s.file ∧ generator.catalog.DeclaredIn origin.source key ∧
      origin.Declares key s.name := by
  obtain ⟨_, _, _, _, _, hfield⟩ := hkey
  obtain ⟨source, hdeclared⟩ := Catalog.declaredIn_of_mem_keysOf hfield
  obtain ⟨origin, horigin, rfl, s', hs', hsfile, hdeclares⟩ := h.declares hdeclared
  obtain rfl : s = s' := Option.some.inj (hs.symm.trans hs')
  exact ⟨origin, horigin, hsfile.symm, hdeclared, hdeclares⟩

/-! ### One module among the others -/

section

variable {file : FileDecl} {index : Nat} {decl : ModuleDecl} {names : SymbolKey → String} {key other : SymbolKey}
  (hfile : (file, index) ∈ generator.schema.files.zipIdx)
  (hbuilt : generator.catalog.Built table file index decl) (hnames : table.Respects (.file file.name) names)

include hfile hbuilt hnames

/-- The name in the place of a referred symbol is settled. -/
theorem namedIn_of_referredIn (hkey : generator.catalog.ReferredIn file.name key) :
    NamedIn table file.name key (names key) := by
  obtain ⟨name, hname⟩ := hbuilt.settled key (Catalog.mem_fileKeys_of_referredIn h.files hfile hkey)
  rwa [hnames key name hname]

/-- Two symbols with one name in a module are one, if one of them is imported. -/
theorem eq_of_names_eq (hkey : (table.importsOf file.name).localNames.lookup key = some (names key))
    (hother : generator.catalog.ReferredIn file.name other) (heq : names key = names other) : other = key := by
  obtain ⟨s, hs, ⟨hown, hname⟩ | ⟨_, hlocal⟩⟩ := h.namedIn_of_referredIn hfile hbuilt hnames hother
  · have hdeclared : names key ∈ table.declaredIn file.name :=
      (h.wellFormed.declared _ _).2 ⟨s, (find?_eq_some hs).1, hown, hname.trans heq.symm⟩
    exact absurd hdeclared (h.localsFree file.name key _ hkey)
  · rw [← heq] at hlocal
    exact (h.wellFormed.imports file.name).distinct _ _ _ hlocal hkey

theorem references_of_built (hdecl : decl ∈ decls) (hkey : generator.catalog.ReferredIn file.name key) :
    ∃ origin ∈ decls, generator.catalog.DeclaredIn origin.source key ∧ ∃ name, origin.Declares key name ∧
      (origin.source = file.name ∧ names key = name ∨
        origin.source ≠ file.name ∧ Holds decl.imports origin.source (importSpecifier name (names key)) ∧
          (∀ other declared, decl.Declares other declared → names key ≠ declared) ∧
          ∀ other, generator.catalog.ReferredIn file.name other → other ≠ key → names key ≠ names other) := by
  obtain ⟨s, hs, hcase⟩ := h.namedIn_of_referredIn hfile hbuilt hnames hkey
  obtain ⟨origin, horigin, hsource, hdeclared, hdeclares⟩ := h.origin_of_referredIn hkey hs
  refine ⟨origin, horigin, hdeclared, s.name, hdeclares, ?_⟩
  rcases hcase with ⟨hown, hname⟩ | ⟨hforeign, hlocal⟩
  · exact Or.inl ⟨hsource.trans hown, hname.symm⟩
  · refine Or.inr ⟨fun heq => hforeign (hsource.symm.trans heq), ?_, ?_, ?_⟩
    · rw [hbuilt.imports, hsource]
      refine ((h.wellFormed.imports file.name).holds _ _).2 ⟨s, (find?_eq_some hs).1, names key, ?_, rfl, rfl⟩
      rw [(find?_eq_some hs).2, hlocal]
    · rintro other _ hother rfl
      have hmem := h.mem_declaredIn hdecl hother
      rw [hbuilt.source] at hmem
      exact h.localsFree file.name key _ hlocal hmem
    · intro other hother hne heq
      exact hne (h.eq_of_names_eq hfile hbuilt hnames hlocal hother heq)

theorem imports_of_built {source specifier : String} (hholds : Holds decl.imports source specifier) :
    source ≠ file.name ∧ ∃ key, generator.catalog.ReferredIn file.name key ∧
      ∃ origin ∈ decls, origin.source = source ∧ ∃ name, origin.Declares key name ∧
        specifier = importSpecifier name (names key) := by
  have himports := h.wellFormed.imports file.name
  rw [hbuilt.imports] at hholds
  obtain ⟨s, hs, name, hname, rfl, rfl⟩ := (himports.holds _ _).1 hholds
  have hfind := h.wellFormed.find?_eq_some_iff.2 ⟨hs, rfl⟩
  have hforeign : s.file ≠ file.name := by
    obtain ⟨s', hs', hkey, hfile'⟩ := himports.foreign _ _ hname
    rwa [h.wellFormed.keys s' hs' s hs hkey] at hfile'
  refine ⟨hforeign, s.key, ?_⟩
  have hreferred : generator.catalog.ReferredIn file.name s.key := by
    rcases Catalog.declaredIn_or_referredIn hfile (hbuilt.only _ _ hname) with hown | hreferred
    · obtain ⟨s', hs', hfile'⟩ := h.registered.exists_symbol hown
      obtain rfl : s = s' := Option.some.inj (hfind.symm.trans hs')
      exact absurd hfile' hforeign
    · exact hreferred
  obtain ⟨origin, horigin, hsource, _, hdeclares⟩ := h.origin_of_referredIn hreferred hfind
  refine ⟨hreferred, origin, horigin, hsource, s.name, hdeclares, ?_⟩
  rw [hnames s.key name ⟨s, hfind, Or.inr ⟨hforeign, hname⟩⟩]

end

/-- Every module fits among the others. -/
theorem linked {decl : ModuleDecl} (hdecl : decl ∈ decls) :
    decl.imports = table.importList decl.source ∧ ∃ names, decl.Linked generator.catalog decls names := by
  obtain ⟨⟨file, index⟩, hitem, hbuilt⟩ := exists_left_of_forall₂ h.built hdecl
  have hfile := (List.mem_filter.1 hitem).1
  obtain ⟨names, hnames⟩ := table.exists_respects file.name
  have hshows := hbuilt.decls names hnames
  refine ⟨by rw [hbuilt.imports, hbuilt.source], names, ?_⟩
  have henums : generator.catalog.enumsOf index = _ := filter_index_eq_filter_name
    (fun entry hentry => (Catalog.mem_enums_ofSchema hentry).1) hfile h.files
  have hclasses : generator.catalog.messagesOf index = _ := filter_index_eq_filter_name
    (fun entry hentry => (Catalog.mem_messages_ofSchema hentry).1) hfile h.files
  refine ⟨?_, ?_, ?_, ?_⟩ <;> rw [hbuilt.source]
  · rw [← henums]
    refine hshows.enums.imp ?_
    rintro entry _ rfl
    exact ⟨rfl, rfl⟩
  · rw [← hclasses]
    exact hshows.classes.imp fun _ _ hshown => hshown.2
  · exact fun key hkey => h.references_of_built hfile hbuilt hnames hdecl hkey
  · exact fun source specifier hholds => h.imports_of_built hfile hbuilt hnames hholds

end Made

/-- If all files have different names and no field has the number of a member of a oneof before it, the modules of a
schema fit together. -/
theorem modules_linked (generator : Generator) (modules : List GeneratedModule) (table : SymbolTable)
    (hfiles : (generator.schema.files.map (·.name)).Nodup)
    (hnumbers : ∀ entry ∈ generator.catalog.messages, entry.decl.MembersKeepNumbers)
    (hrun : generator.modules.run {} = (.ok modules, table)) : generator.Linked modules table := by
  obtain ⟨decls, middle, hdecls, hrender⟩ := Gen.run_bind_eq_ok hrun
  cases hrender
  have h := made_of_run hfiles hnumbers hdecls
  refine ⟨decls, hdecls, rfl, ?_, fun decl hdecl => h.linked hdecl, fun file hfile => ?_⟩
  · rw [← map_name_items, h.map_source]
  · rw [h.map_source] at hfile
    rw [importList, h.elsewhere file hfile]

/-- Two files that declare a type of one name, and refer to each other. -/
def twoNodes : Generator where
  schema := ⟨[{ name := "a.proto"
                package := some "a"
                messages :=
                  [{ name := "Node"
                     fields :=
                       [{ name := "next", number := 1, type := .message ".b.Node" },
                        { name := "own", number := 1, type := .message "Node" }] }] },
              { name := "b.proto"
                package := some "b"
                enums := [{ name := "Color", values := [] }]
                messages :=
                  [{ name := "Node"
                     fields :=
                       [{ name := "nodes", number := 1, type := .map .string (.message "a.Node") },
                        { name := "color", number := 2, type := .enum "Color", oneof := some "fill" }]
                     oneofs := [{ name := "fill" }] }] }]⟩
  config := {}

theorem modules_linked_twoNodes :
    (twoNodes.schema.files.map (·.name)).Nodup ∧
      (∀ entry ∈ twoNodes.catalog.messages, entry.decl.MembersKeepNumbers) ∧
      ∃ modules table, twoNodes.modules.run {} = (.ok modules, table) ∧ twoNodes.Linked modules table := by
  obtain ⟨modules, table, hrun⟩ : ∃ modules table, twoNodes.modules.run {} = (.ok modules, table) :=
    Gen.exists_run_eq_ok (by decide +kernel)
  have hfiles : (twoNodes.schema.files.map (·.name)).Nodup := by decide
  have hnumbers : ∀ entry ∈ twoNodes.catalog.messages, entry.decl.MembersKeepNumbers := by decide
  exact ⟨hfiles, hnumbers, modules, table, hrun, modules_linked twoNodes modules table hfiles hnumbers hrun⟩

/-- A member of a oneof that refers to another file, and after it a field with the same number. -/
def shadowed : Generator where
  schema := ⟨[{ name := "a.proto", messages := [{ name := "A" }] },
              { name := "f.proto"
                messages :=
                  [{ name := "B" },
                   { name := "M"
                     fields :=
                       [{ name := "a", number := 1, type := .message "A", oneof := some "o" },
                        { name := "b", number := 1, type := .message "B" }]
                     oneofs := [{ name := "o" }] }] }]⟩
  config := {}

/-- The modules do not fit together if the number of a member of a oneof is repeated: nothing refers to the type of the
member, and nothing is imported for it. -/
theorem shadowed_not_linked :
    (shadowed.schema.files.map (·.name)).Nodup ∧
      ∃ modules table, shadowed.modules.run {} = (.ok modules, table) ∧ ¬ shadowed.Linked modules table := by
  refine ⟨by decide, ?_⟩
  obtain ⟨modules, table, hrun⟩ : ∃ modules table, shadowed.modules.run {} = (.ok modules, table) :=
    Gen.exists_run_eq_ok (by decide +kernel)
  refine ⟨modules, table, hrun, ?_⟩
  rintro ⟨decls, hdecls, _, _, hlinked, _⟩
  -- no module imports anything
  have himports : (shadowed.moduleDecls.run {}).1.toOption.map (·.map fun decl => (decl.source, decl.imports)) =
      some [("a.proto", []), ("f.proto", [])] := by decide +kernel
  rw [hdecls] at himports
  have hpairs : decls.map (fun decl => (decl.source, decl.imports)) = [("a.proto", []), ("f.proto", [])] :=
    Option.some.inj himports
  obtain ⟨decl, hdecl, hpair⟩ : ∃ decl ∈ decls, (decl.source, decl.imports) = ("f.proto", []) :=
    List.mem_map.1 (by rw [hpairs]; decide)
  obtain ⟨hsource, hnone⟩ := Prod.mk.inj hpair
  obtain ⟨_, names, hfits⟩ := hlinked decl hdecl
  -- but the member refers to a type of the other file
  have hreferred : shadowed.catalog.ReferredIn "f.proto" ⟨⟨"A"⟩, .message⟩ := by
    unfold Catalog.ReferredIn
    decide +kernel
  have hforeign : ¬ shadowed.catalog.DeclaredIn "f.proto" ⟨⟨"A"⟩, .message⟩ := by
    show ¬ ∃ entry ∈ shadowed.catalog.messages, _
    decide +kernel
  obtain ⟨origin, _, hdeclared, name, _, ⟨hown, _⟩ | ⟨_, hholds, _⟩⟩ := hfits.references _ (hsource ▸ hreferred)
  · rw [hown, hsource] at hdeclared
    exact hforeign hdeclared
  · rw [hnone] at hholds
    obtain ⟨_, hmem, _⟩ := hholds
    cases hmem

end Generator

end ProtoClass
