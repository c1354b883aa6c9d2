import ProtoClass.Proofs.Class.Alike
import ProtoClass.Proofs.Module.Contents
import ProtoClass.Proofs.Schema.Permutation
import ProtoClass.Proofs.Symbol.Scopes

/-!
# The order of the files

The modules of a schema depend on its files, but not on their order (`modules_of_perm`).

* A module depends on what the symbol table looks like from its file (`moduleDecl_alike`), and the modules made before
  it have not changed that (`moduleDecls_eq`).
* Once all names are reserved, the table looks the same from a file in any order of the files (`looksAlike_of_perm`), so
  that a module that is made first is the same (`declOf_of_perm`).
-/

namespace ProtoClass

open SymbolTable

private theorem forall₂_of_map_eq {α β : Type} {f : α → β} {l l' : List α} (h : l'.map f = l.map f) :
    List.Forall₂ (fun a a' => f a' = f a) l l' := by
  have heq : List.Forall₂ (· = ·) (l'.map f) (l.map f) := List.forall₂_eq_eq_eq ▸ h
  rw [List.forall₂_map_left_iff, List.forall₂_map_right_iff] at heq
  exact heq.flip

namespace Catalog

/-! ### One file in two catalogues -/

section TwoCatalogues

variable {catalog catalog' : Catalog} {base last : SymbolTable} {file : FileDecl} {index index' : Nat}

theorem namedEnum_alike (config : Config) {entry entry' : Entry EnumDecl}
    (hentry : entry'.unplaced = entry.unplaced) :
    Gen.Alike (AlikeFrom file.name base) last (· = ·)
      (namedEnum ⟨.file file.name, config⟩ entry) (namedEnum ⟨.file file.name, config⟩ entry') := by
  obtain ⟨identity, decl, entryFile, entryIndex⟩ := entry
  obtain ⟨identity', decl', entryFile', entryIndex'⟩ := entry'
  cases hentry
  refine (resolve_alike_of_looksAlike base last file.name identity .enum).returning ?_
  rintro name _ rfl
  rfl

variable (hlike : Like catalog catalog')

include hlike

theorem namedClass_alike (config : Config) {entry entry' : Entry MessageDecl}
    (hentry : entry'.unplaced = entry.unplaced) :
    Gen.Alike (AlikeFrom file.name base) last (· = ·)
      (catalog.namedClass ⟨.file file.name, config⟩ entry) (catalog'.namedClass ⟨.file file.name, config⟩ entry') := by
  obtain ⟨identity, decl, entryFile, entryIndex⟩ := entry
  obtain ⟨identity', decl', entryFile', entryIndex'⟩ := entry'
  cases hentry
  have hresolve := resolve_alike_of_looksAlike base last file.name
  refine (classOf_alike config rfl (hlike.resolve _ _) hresolve fun message _ => hresolve _ _).bind fun decl decl' =>
    (hresolve _ .message).returning ?_
  rintro name _ rfl hdecl
  rw [hdecl.eq fun _ _ heq => heq]

theorem fileDecls_alike (config : Config)
    (henums : (catalog'.enumsOf index').map Entry.unplaced = (catalog.enumsOf index).map Entry.unplaced)
    (hmessages : (catalog'.messagesOf index').map Entry.unplaced = (catalog.messagesOf index).map Entry.unplaced) :
    Gen.Alike (AlikeFrom file.name base) last (· = ·)
      (catalog.fileDecls ⟨.file file.name, config⟩ index) (catalog'.fileDecls ⟨.file file.name, config⟩ index') := by
  refine (Gen.Alike.mapM ((forall₂_of_map_eq henums).imp fun _ _ hentry =>
    namedEnum_alike config hentry)).bind fun enums enums' =>
      (Gen.Alike.mapM ((forall₂_of_map_eq hmessages).imp fun _ _ hentry =>
        namedClass_alike hlike config hentry)).returning fun classes classes' hclasses henums => ?_
  rw [List.forall₂_eq_eq_eq] at hclasses henums
  rw [hclasses, henums]

/-- A file whose declarations are the same gets the same module where the table looks the same from it. -/
theorem moduleDecl_alike (config : Config)
    (henums : (catalog'.enumsOf index').map Entry.unplaced = (catalog.enumsOf index).map Entry.unplaced)
    (hmessages : (catalog'.messagesOf index').map Entry.unplaced = (catalog.messagesOf index).map Entry.unplaced) :
    Gen.Alike (AlikeFrom file.name base) last (· = ·)
      (catalog.moduleDecl config file index) (catalog'.moduleDecl config file index') := by
  refine (fileDecls_alike hlike config henums hmessages).bind fun decls decls' =>
    Gen.Alike.get_returning fun table table' htables hdecls => ?_
  subst hdecls
  rw [importList, importList, htables.looks.imports]

end TwoCatalogues

/-- Modules that are made one after another are what each of them is when it is made first. -/
theorem moduleDecls_eq_mapM (catalog : Catalog) (config : Config) {items : List (FileDecl × Nat)}
    {table base : SymbolTable} (hitems : (items.map (·.1.name)).Nodup)
    (hlooks : ∀ item ∈ items, LooksAlike item.1.name table base) :
    ((items.mapM fun item => catalog.moduleDecl config item.1 item.2).run table).1 =
      items.mapM fun item => ((catalog.moduleDecl config item.1 item.2).run base).1 := by
  induction items generalizing table with
  | nil => rfl
  | cons item rest ih =>
    obtain ⟨hfirst, hrest⟩ := List.nodup_cons.1 hitems
    rw [List.mapM_cons, List.mapM_cons]
    rcases Gen.Alike.run_cases (fun last => moduleDecl_alike (Like.refl catalog) config rfl rfl)
        ⟨hlooks item List.mem_cons_self, SameElsewhere.refl item.1.name table⟩ with
      ⟨decl, later, later', hrun, hrun', _, hlater⟩ | ⟨e, later, later', hrun, hrun'⟩
    · have hothers : ∀ other ∈ rest, LooksAlike other.1.name later base := by
        intro other hother
        refine (hlooks other (List.mem_cons_of_mem _ hother)).of_sameElsewhere hlater fun heq => hfirst ?_
        exact List.mem_map.2 ⟨other, hother, heq⟩
      have hcons : ∀ step : Gen (List ModuleDecl), ((step >>= fun decls => pure (decl :: decls)).run later).1 =
          (step.run later).1 >>= fun decls => pure (decl :: decls) := by
        intro step
        rw [Gen.run_bind]
        rcases step.run later with ⟨_ | _, _⟩ <;> rfl
      rw [← ih hrest hothers, Gen.run_bind_of_ok hrun, hrun', hcons]
      rfl
    · rw [Gen.run_bind_of_error hrun, hrun']
      rfl

/-! ### The names of a file -/

section Names

variable {catalog catalog' : Catalog} {α : Type} {entries entries' : List (Entry α)} {file : String}

/-- What names are asked for on behalf of a file depends on the entries of the file. -/
theorem filter_requestsFor (hlike : Like catalog catalog') (kind : SymbolKind) (nameOf : String → String)
    (hentries : (entries'.filter (·.file.name == file)).map Entry.unplaced =
      (entries.filter (·.file.name == file)).map Entry.unplaced) :
    (catalog'.requestsFor kind nameOf entries').filter (·.file == file) =
      (catalog.requestsFor kind nameOf entries).filter (·.file == file) := by
  let request (entry : Entry α) : NameRequest :=
    ⟨nameOf ((catalog.name? entry.identity).getD ""), entry.identity, entry.file.name, kind⟩
  have hfilter : ∀ l : List (Entry α), (l.map request).filter (·.file == file) =
      ((l.filter (·.file.name == file)).map Entry.unplaced).map request := by
    intro l
    rw [List.filter_map, List.map_map]
    rfl
  unfold requestsFor
  simp only [hlike.name]
  exact (hfilter entries').trans ((congrArg _ hentries).trans (hfilter entries).symm)

end Names

section OfSchema

variable {schema schema' : Schema} (hperm : schema.files.Perm schema'.files)
  (hfiles : (schema.files.map (·.name)).Nodup)
  (hdistinct : ((schema.files.flatMap (·.declarations)).map (·.identity)).Nodup)

include hperm hdistinct

private theorem distinct_of_perm : ((schema'.files.flatMap (·.declarations)).map (·.identity)).Nodup :=
  ((hperm.flatMap_right _).map _).nodup_iff.1 hdistinct

include hfiles

theorem filter_messages_of_perm (file : String) :
    ((ofSchema schema').messages.filter (·.file.name == file)).map Entry.unplaced =
      ((ofSchema schema).messages.filter (·.file.name == file)).map Entry.unplaced := by
  rw [messages_eq_entriesOf hdistinct, messages_eq_entriesOf (distinct_of_perm hperm hdistinct)]
  exact map_unplaced_filter_of_perm hperm hfiles file

theorem filter_enums_of_perm (file : String) :
    ((ofSchema schema').enums.filter (·.file.name == file)).map Entry.unplaced =
      ((ofSchema schema).enums.filter (·.file.name == file)).map Entry.unplaced := by
  rw [enums_eq_entriesOf hdistinct, enums_eq_entriesOf (distinct_of_perm hperm hdistinct)]
  exact map_unplaced_filter_of_perm hperm hfiles file

section OneFile

variable {file : FileDecl} {index index' : Nat} (hfile : (file, index) ∈ schema.files.zipIdx)
  (hfile' : (file, index') ∈ schema'.files.zipIdx)

include hfile hfile'

theorem messagesOf_of_perm :
    ((ofSchema schema').messagesOf index').map Entry.unplaced =
      ((ofSchema schema).messagesOf index).map Entry.unplaced := by
  have hfiles' := (hperm.map FileDecl.name).nodup_iff.1 hfiles
  rw [messagesOf, messagesOf,
    filter_index_eq_filter_name (fun _ hentry => (mem_messages_ofSchema hentry).1) hfile hfiles,
    filter_index_eq_filter_name (fun _ hentry => (mem_messages_ofSchema hentry).1) hfile' hfiles']
  exact filter_messages_of_perm hperm hfiles hdistinct file.name

theorem enumsOf_of_perm :
    ((ofSchema schema').enumsOf index').map Entry.unplaced =
      ((ofSchema schema).enumsOf index).map Entry.unplaced := by
  have hfiles' := (hperm.map FileDecl.name).nodup_iff.1 hfiles
  rw [enumsOf, enumsOf,
    filter_index_eq_filter_name (fun _ hentry => (mem_enums_ofSchema hentry).1) hfile hfiles,
    filter_index_eq_filter_name (fun _ hentry => (mem_enums_ofSchema hentry).1) hfile' hfiles']
  exact filter_enums_of_perm hperm hfiles hdistinct file.name

end OneFile

theorem filter_requests_of_perm (file : String) :
    (ofSchema schema').requests.filter (·.file == file) = (ofSchema schema).requests.filter (·.file == file) := by
  have hlike := like_of_perm hperm hdistinct
  have henums := filter_enums_of_perm hperm hfiles hdistinct file
  have hmessages := filter_messages_of_perm hperm hfiles hdistinct file
  unfold requests
  simp only [List.filter_append]
  rw [filter_requestsFor hlike .enum id henums, filter_requestsFor hlike .message id hmessages,
    filter_requestsFor hlike .constructorClass Naming.className hmessages]

/-- Once all names are reserved, the table looks the same from every file, whatever the order of the files. -/
theorem looksAlike_of_perm {table table' : SymbolTable} (hrun : (ofSchema schema).reserve.run {} = (.ok (), table))
    (hrun' : (ofSchema schema').reserve.run {} = (.ok (), table')) (file : String) : LooksAlike file table table' := by
  have hcatalog := coherent_ofSchema schema
  have hcatalog' := coherent_ofSchema schema'
  obtain ⟨_, hreserve, hwell, _, hempty⟩ := run_reserve hcatalog
  obtain ⟨_, hreserve', hwell', _, hempty'⟩ := run_reserve hcatalog'
  cases hreserve.symm.trans hrun
  cases hreserve'.symm.trans hrun'
  have hgranted : table = grantAll {} (ofSchema schema).requests :=
    congrArg Prod.snd (hrun.symm.trans (run_reserve_eq hcatalog))
  have hgranted' : table' = grantAll {} (ofSchema schema').requests :=
    congrArg Prod.snd (hrun'.symm.trans (run_reserve_eq hcatalog'))
  have halike : ∀ file, DeclaresAlike file table table' := by
    intro file
    have hown : DeclaresAlike file table (grantAll {} ((ofSchema schema).requests.filter (·.file == file))) :=
      hgranted ▸ declaresAlike_grantAll (.refl file {})
    have hown' : DeclaresAlike file table' (grantAll {} ((ofSchema schema').requests.filter (·.file == file))) :=
      hgranted' ▸ declaresAlike_grantAll (.refl file {})
    rw [filter_requests_of_perm hperm hfiles hdistinct] at hown'
    exact hown.trans hown'.symm
  exact ⟨find?_eq_of_declaresAlike hwell hwell' halike, (halike file).declared, by rw [hempty, hempty']⟩

end OfSchema

end Catalog

/-! ### Modules made on their own -/

private theorem mapM_congr {α β ε : Type} {f g : α → Except ε β} {l : List α} (h : ∀ a ∈ l, f a = g a) :
    l.mapM f = l.mapM g := by
  induction l with
  | nil => rfl
  | cons a rest ih =>
    rw [List.mapM_cons, List.mapM_cons, h a List.mem_cons_self, ih fun b hb => h b (List.mem_cons_of_mem _ hb)]

private theorem mapM_eq_error {α β ε : Type} {f : α → Except ε β} {l : List α} {a : α} {e : ε} (ha : a ∈ l)
    (he : f a = .error e) : ∃ e, l.mapM f = .error e := by
  induction l with
  | nil => cases ha
  | cons b rest ih =>
    rw [List.mapM_cons]
    rcases hb : f b with e' | b'
    · exact ⟨e', rfl⟩
    · rcases List.mem_cons.1 ha with rfl | ha
      · cases he.symm.trans hb
      · obtain ⟨e', hrest⟩ := ih ha
        exact ⟨e', by rw [hrest]; rfl⟩

/-- Whether something can be made of all elements of a list, and what is made of each, does not depend on their
order. -/
private theorem mapM_of_perm {α β ε : Type} [Nonempty β] (f : α → Except ε β) {l l' : List α} (hperm : l.Perm l') :
    (∃ e e', l.mapM f = .error e ∧ l'.mapM f = .error e') ∨
      ∃ made : α → β, (∀ a ∈ l, f a = .ok (made a)) ∧ l.mapM f = .ok (l.map made) ∧
        l'.mapM f = .ok (l'.map made) := by
  by_cases hall : ∀ a ∈ l, ∃ b, f a = .ok b
  · choose! made hmade using hall
    exact Or.inr ⟨made, hmade, (mapM_congr hmade).trans List.mapM_pure,
      (mapM_congr fun a ha => hmade a (hperm.mem_iff.2 ha)).trans List.mapM_pure⟩
  · push Not at hall
    obtain ⟨a, ha, hnone⟩ := hall
    rcases hresult : f a with e | b
    · obtain ⟨e, herror⟩ := mapM_eq_error ha hresult
      obtain ⟨e', herror'⟩ := mapM_eq_error (hperm.mem_iff.1 ha) hresult
      exact Or.inl ⟨e, e', herror, herror'⟩
    · exact absurd hresult (hnone b)

/-- The index of the first file with the name of a file. -/
def Schema.indexOf (schema : Schema) (file : FileDecl) : Nat :=
  schema.files.findIdx (·.name == file.name)

theorem Schema.indexOf_eq {schema : Schema} {file : FileDecl} {index : Nat}
    (hfiles : (schema.files.map (·.name)).Nodup) (hfile : (file, index) ∈ schema.files.zipIdx) :
    schema.indexOf file = index := by
  have hlt : schema.indexOf file < schema.files.length :=
    List.findIdx_lt_length_of_exists ⟨file, List.fst_mem_of_mem_zipIdx hfile, beq_self_eq_true _⟩
  have hname : (schema.files[schema.indexOf file].name == file.name) = true :=
    List.findIdx_getElem (p := fun other : FileDecl => other.name == file.name)
  exact index_eq_of_name hfiles (List.mk_mem_zipIdx_iff_getElem?.2 (List.getElem?_eq_getElem hlt)) hfile
    (beq_iff_eq.1 hname)

namespace Generator

variable {generator generator' : Generator}

/-- What becomes of a file if its module is the first one to be made. -/
def declOf (generator : Generator) (file : FileDecl) : Except GenError ModuleDecl :=
  ((do generator.reserve
       generator.catalog.moduleDecl generator.config file (generator.schema.indexOf file) : Gen ModuleDecl).run {}).1

theorem declOf_eq {file : FileDecl} {index : Nat} {table : SymbolTable}
    (hfiles : (generator.schema.files.map (·.name)).Nodup) (hfile : (file, index) ∈ generator.schema.files.zipIdx)
    (hreserve : generator.reserve.run {} = (.ok (), table)) :
    generator.declOf file = ((generator.catalog.moduleDecl generator.config file index).run table).1 := by
  rw [declOf, Schema.indexOf_eq hfiles hfile, Gen.run_bind_of_ok hreserve]

theorem run_reserve (generator : Generator) : ∃ table, generator.reserve.run {} = (.ok (), table) := by
  obtain ⟨table, hreserve, _⟩ := Catalog.run_reserve (Catalog.coherent_ofSchema generator.schema)
  exact ⟨table, hreserve⟩

/-- Every module is what it is when it is the first one to be made. -/
theorem moduleDecls_eq (hfiles : (generator.schema.files.map (·.name)).Nodup) :
    (generator.moduleDecls.run {}).1 =
      (generator.schema.files.filter fun file => !file.isEmpty).mapM generator.declOf := by
  obtain ⟨table, hreserve⟩ := generator.run_reserve
  have hitems := generator.nodup_names_items hfiles
  calc (generator.moduleDecls.run {}).1
      = ((generator.items.mapM fun item => generator.catalog.moduleDecl generator.config item.1 item.2).run table).1 :=
        congrArg Prod.fst (Gen.run_bind_of_ok hreserve)
    _ = generator.items.mapM fun item =>
          ((generator.catalog.moduleDecl generator.config item.1 item.2).run table).1 :=
        Catalog.moduleDecls_eq_mapM _ _ hitems fun item _ => LooksAlike.refl item.1.name table
    _ = generator.items.mapM (generator.declOf ∘ Prod.fst) :=
        mapM_congr fun item hitem => (declOf_eq hfiles (List.mem_filter.1 hitem).1 hreserve).symm
    _ = (generator.schema.files.filter fun file => !file.isEmpty).mapM generator.declOf := by
        rw [← map_fst_items, List.mapM_map]

theorem source_of_declOf {file : FileDecl} {decl : ModuleDecl} (h : generator.declOf file = .ok decl) :
    decl.source = file.name := by
  obtain ⟨table, hreserve⟩ := generator.run_reserve
  rw [declOf, Gen.run_bind_of_ok hreserve] at h
  exact (Catalog.moduleDecl_makes (Catalog.coherent_ofSchema generator.schema) _ _ _ _ _ _ (Prod.ext h rfl)).source

/-- What becomes of a file does not depend on the order of the files. -/
theorem declOf_of_perm (hconfig : generator'.config = generator.config)
    (hperm : generator.schema.files.Perm generator'.schema.files)
    (hfiles : (generator.schema.files.map (·.name)).Nodup)
    (hdistinct : ((generator.schema.files.flatMap (·.declarations)).map (·.identity)).Nodup) {file : FileDecl}
    (hfile : file ∈ generator.schema.files) : generator'.declOf file = generator.declOf file := by
  have hfiles' : (generator'.schema.files.map (·.name)).Nodup := (hperm.map _).nodup_iff.1 hfiles
  obtain ⟨index, hindex⟩ := exists_mem_zipIdx hfile
  obtain ⟨index', hindex'⟩ := exists_mem_zipIdx (hperm.mem_iff.1 hfile)
  obtain ⟨table, hreserve⟩ := generator.run_reserve
  obtain ⟨table', hreserve'⟩ := generator'.run_reserve
  rw [declOf_eq hfiles hindex hreserve, declOf_eq hfiles' hindex' hreserve', hconfig]
  have henums := Catalog.enumsOf_of_perm hperm hfiles hdistinct hindex hindex'
  have hmessages := Catalog.messagesOf_of_perm hperm hfiles hdistinct hindex hindex'
  have hlooks := Catalog.looksAlike_of_perm hperm hfiles hdistinct hreserve hreserve' file.name
  have hruns := Gen.Alike.run_cases (fun last => Catalog.moduleDecl_alike (Catalog.like_of_perm hperm hdistinct)
    generator.config henums hmessages) ⟨hlooks, SameElsewhere.refl file.name table⟩
  rcases hruns with ⟨_, _, _, hrun, hrun', _⟩ | ⟨_, _, _, hrun, hrun'⟩ <;>
    exact (congrArg Prod.fst hrun').trans (congrArg Prod.fst hrun).symm

theorem modules_eq (generator : Generator) :
    (generator.modules.run {}).1 = (generator.moduleDecls.run {}).1.map (·.map ModuleDecl.render) :=
  congrArg Prod.fst (Gen.run_map (List.map ModuleDecl.render) generator.moduleDecls {})

/-- If all files have different names and all declarations different identities, the modules of a schema do not depend
on the order of its files: either none are made in both orders, or each file gets the same module in both. -/
theorem modules_of_perm (generator generator' : Generator) (hconfig : generator'.config = generator.config)
    (hperm : generator.schema.files.Perm generator'.schema.files)
    (hfiles : (generator.schema.files.map (·.name)).Nodup)
    (hdistinct : ((generator.schema.files.flatMap (·.declarations)).map (·.identity)).Nodup) :
    (∃ e e', (generator.modules.run {}).1 = .error e ∧ (generator'.modules.run {}).1 = .error e') ∨
      ∃ made : FileDecl → GeneratedModule,
        (∀ file ∈ generator.schema.files, file.isEmpty = false → (made file).source = file.name) ∧
        (generator.modules.run {}).1 = .ok ((generator.schema.files.filter fun file => !file.isEmpty).map made) ∧
        (generator'.modules.run {}).1 = .ok ((generator'.schema.files.filter fun file => !file.isEmpty).map made) := by
  have hfiles' : (generator'.schema.files.map (·.name)).Nodup := (hperm.map _).nodup_iff.1 hfiles
  have hfiltered := hperm.filter fun file => !file.isEmpty
  have hsame : ∀ file ∈ generator'.schema.files.filter fun file => !file.isEmpty,
      generator'.declOf file = generator.declOf file := fun file hfile =>
    declOf_of_perm hconfig hperm hfiles hdistinct (List.mem_filter.1 (hfiltered.mem_iff.2 hfile)).1
  have hdecls := moduleDecls_eq hfiles
  have hdecls' := (moduleDecls_eq hfiles').trans (mapM_congr hsame)
  have : Nonempty ModuleDecl := ⟨⟨"", [], [], []⟩⟩
  rcases mapM_of_perm generator.declOf hfiltered with ⟨e, e', herror, herror'⟩ | ⟨decl, hdecl, hmade, hmade'⟩
  · refine Or.inl ⟨e, e', ?_, ?_⟩
    · rw [modules_eq, hdecls, herror, Except.map]
    · rw [modules_eq, hdecls', herror', Except.map]
  · refine Or.inr ⟨fun file => (decl file).render, fun file hfile hempty => ?_, ?_, ?_⟩
    · exact source_of_declOf (hdecl file (List.mem_filter.2 ⟨hfile, by simp [hempty]⟩))
    · rw [modules_eq, hdecls, hmade, Except.map, List.map_map]
      rfl
    · rw [modules_eq, hdecls', hmade', Except.map, List.map_map]
      rfl

/-- The generator for the same files in reverse. -/
def reversed (generator : Generator) : Generator :=
  { generator with schema := ⟨generator.schema.files.reverse⟩ }

theorem modules_of_perm_twoNodes :
    twoNodes.schema.files.Perm twoNodes.reversed.schema.files ∧ (twoNodes.schema.files.map (·.name)).Nodup ∧
      ((twoNodes.schema.files.flatMap (·.declarations)).map (·.identity)).Nodup ∧
      ∃ made : FileDecl → GeneratedModule,
        (∀ file ∈ twoNodes.schema.files, file.isEmpty = false → (made file).source = file.name) ∧
        (twoNodes.modules.run {}).1 = .ok ((twoNodes.schema.files.filter fun file => !file.isEmpty).map made) ∧
        (twoNodes.reversed.modules.run {}).1 =
          .ok ((twoNodes.reversed.schema.files.filter fun file => !file.isEmpty).map made) := by
  have hperm : twoNodes.schema.files.Perm twoNodes.reversed.schema.files := (List.reverse_perm _).symm
  have hfiles : (twoNodes.schema.files.map (·.name)).Nodup := by decide
  have hdistinct : ((twoNodes.schema.files.flatMap (·.declarations)).map (·.identity)).Nodup := by decide +kernel
  refine ⟨hperm, hfiles, hdistinct, ?_⟩
  rcases modules_of_perm twoNodes twoNodes.reversed rfl hperm hfiles hdistinct with ⟨e, _, herror, _⟩ | hmade
  · have hok : (twoNodes.modules.run {}).1.isOk = true := by decide +kernel
    rw [herror] at hok
    cases hok
  · exact hmade

end Generator

end ProtoClass
