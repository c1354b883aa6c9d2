import ProtoClass.Proofs.Class.Alike
import ProtoClass.Proofs.Module.Contents
import ProtoClass.Proofs.Schema.Order
import ProtoClass.Proofs.Symbol.Scopes

/-!
# Classes and modules agree

The classes of a schema can be made on their own or as part of modules.  On a fresh generator both succeed or both fail
with one error, and the modules hold the classes one after the other, the same but for the names of types from other
files (`classes_agree_with_modules`).
-/

namespace ProtoClass

open SymbolTable

/-- The classes of a module, each with the file that it stands in. -/
def ModuleDecl.placedClasses (decl : ModuleDecl) : List (String × ClassDecl) :=
  decl.classes.map fun named => (decl.source, named.decl)

namespace Catalog

variable {catalog : Catalog} {base last : SymbolTable} (config : Config)

/-- A class in a module, and the class of the same message as it is made on its own.  The one in the module has the
names of the file where the other one has declared names: it is the class that is made of the message if every symbol
goes by the name that the file has for it. -/
structure Placed (catalog : Catalog) (config : Config) (table : SymbolTable) (file : String)
    (decl placed : ClassDecl) : Prop where
  same : decl.SameBut (table.NamedAlike file) placed
  made : ∃ entry ∈ catalog.messages, entry.identity = decl.identity ∧ entry.file.name = file ∧
    ((catalog.classOf ⟨.table, config⟩ entry).run (table.seenFrom file)).1 = .ok placed

section

variable (hcatalog : catalog.Coherent) (hregistered : catalog.Registered base)
  (hlast : ∀ key, last.find? key = base.find? key)

include hcatalog hregistered hlast

theorem classOf_placed {entry : Entry MessageDecl} (hentry : entry ∈ catalog.messages) :
    Gen.Alike (SameSymbols base) last (catalog.Placed config last entry.file.name)
      (catalog.classOf ⟨.table, config⟩ entry) (catalog.classOf ⟨.file entry.file.name, config⟩ entry) := by
  obtain ⟨s, _, hs, hfile, _⟩ := hregistered.classes entry hentry
  have hidentity : ∀ message, catalog.resolve entry.identity config.discriminator = .ok message →
      message.identity = entry.identity := by
    intro message hmessage
    have hresolved := resolve_spec hcatalog hentry config.discriminator
    rw [hmessage] at hresolved
    exact hresolved.identity
  have hsame : Gen.Alike (SameSymbols base) last (ClassDecl.SameBut (last.NamedAlike entry.file.name))
      (catalog.classOf ⟨.table, config⟩ entry) (catalog.classOf ⟨.file entry.file.name, config⟩ entry) := by
    refine classOf_alike config rfl rfl (resolve_alike base last entry.file.name) fun message hmessage => ?_
    rw [hidentity message hmessage]
    exact resolve_alike_of_own hs hfile
  have hseen : Gen.Alike _ last (ClassDecl.SameBut (· = ·)) (catalog.classOf ⟨.table, config⟩ entry)
      (catalog.classOf ⟨.file entry.file.name, config⟩ entry) :=
    classOf_alike config rfl rfl (resolve_alike_seenFrom hlast entry.file.name) fun message _ =>
      resolve_alike_seenFrom hlast entry.file.name message.identity .constructorClass
  refine ((hsame.also hseen fun table table' htables => ⟨rfl, htables.right⟩).and_makes
    (classOf_makes hcatalog ⟨.table, config⟩ hentry)).imp ?_
  rintro decl placed ⟨⟨hdecl, made, hrun, hmade⟩, hdeclIdentity⟩
  obtain rfl := hmade.eq fun _ _ heq => heq
  exact ⟨hdecl, entry, hentry, hdeclIdentity.symm, rfl, hrun⟩

theorem namedClass_placed {entry : Entry MessageDecl} (hentry : entry ∈ catalog.messages) :
    Gen.Alike (SameSymbols base) last (fun decl named => catalog.Placed config last entry.file.name decl named.decl)
      (catalog.classOf ⟨.table, config⟩ entry) (catalog.namedClass ⟨.file entry.file.name, config⟩ entry) := by
  obtain ⟨s, _, hs, _⟩ := hregistered.messages entry hentry
  rw [← bind_pure (catalog.classOf ⟨.table, config⟩ entry)]
  exact (classOf_placed config hcatalog hregistered hlast hentry).bind fun decl placed =>
    Gen.Alike.bind_right (resolve_silent hs _) fun _ => Gen.Alike.pure fun hplaced => hplaced

/-- The classes of a file are made together with its enums, which takes nothing but names that are registered. -/
theorem fileDecls_placed {file : FileDecl} {index : Nat}
    (hfile : ∀ entry ∈ catalog.messagesOf index, entry.file = file) :
    Gen.Alike (SameSymbols base) last
      (fun classes decls => List.Forall₂ (fun decl named => catalog.Placed config last file.name decl named.decl)
        classes decls.2)
      ((catalog.messagesOf index).mapM (catalog.classOf ⟨.table, config⟩))
      (catalog.fileDecls ⟨.file file.name, config⟩ index) := by
  have henums : Gen.Alike.Silent (SameSymbols base) last
      ((catalog.enumsOf index).mapM (namedEnum ⟨.file file.name, config⟩)) := by
    refine Gen.Alike.mapM_silent fun entry hentry => ?_
    obtain ⟨s, _, hs, _⟩ := hregistered.enums entry (List.mem_filter.1 hentry).1
    exact Gen.Alike.bind_right (resolve_silent hs _) fun _ => Gen.Alike.pure trivial
  have hclasses : List.Forall₂ (fun entry entry' =>
      Gen.Alike (SameSymbols base) last (fun decl named => catalog.Placed config last file.name decl named.decl)
        (catalog.classOf ⟨.table, config⟩ entry) (catalog.namedClass ⟨.file file.name, config⟩ entry'))
      (catalog.messagesOf index) (catalog.messagesOf index) := by
    refine List.forall₂_same.2 fun entry hentry => ?_
    rw [← hfile entry hentry]
    exact namedClass_placed config hcatalog hregistered hlast (List.mem_filter.1 hentry).1
  unfold fileDecls
  rw [← bind_pure ((catalog.messagesOf index).mapM (catalog.classOf ⟨.table, config⟩))]
  exact Gen.Alike.bind_right henums fun enums => (Gen.Alike.mapM hclasses).returning fun _ _ hplaced => hplaced

theorem moduleDecl_placed {file : FileDecl} {index : Nat}
    (hfile : ∀ entry ∈ catalog.messagesOf index, entry.file = file) :
    Gen.Alike (SameSymbols base) last
      (fun classes decl => List.Forall₂ (fun decl placed => catalog.Placed config last placed.1 decl placed.2)
        classes decl.placedClasses)
      ((catalog.messagesOf index).mapM (catalog.classOf ⟨.table, config⟩))
      (catalog.moduleDecl config file index) := by
  unfold moduleDecl
  rw [← bind_pure ((catalog.messagesOf index).mapM (catalog.classOf ⟨.table, config⟩))]
  refine (fileDecls_placed config hcatalog hregistered hlast hfile).bind fun classes decls =>
    Gen.Alike.bind_right Gen.Alike.get_silent fun table => Gen.Alike.pure fun hplaced => ?_
  unfold ModuleDecl.placedClasses
  rw [List.forall₂_map_right_iff]
  exact hplaced

/-- Making all classes runs like making all modules. -/
theorem moduleDecls_placed {items : List (FileDecl × Nat)}
    (hfiles : ∀ item ∈ items, ∀ entry ∈ catalog.messagesOf item.2, entry.file = item.1) :
    Gen.Alike (SameSymbols base) last
      (fun classes decls => List.Forall₂ (fun decl placed => catalog.Placed config last placed.1 decl placed.2)
        classes (decls.flatMap ModuleDecl.placedClasses))
      ((items.flatMap fun item => catalog.messagesOf item.2).mapM (catalog.classOf ⟨.table, config⟩))
      (items.mapM fun item => catalog.moduleDecl config item.1 item.2) := by
  induction items with
  | nil => exact Gen.Alike.pure .nil
  | cons item rest ih =>
    rw [List.flatMap_cons, List.mapM_append, List.mapM_cons]
    refine (moduleDecl_placed config hcatalog hregistered hlast (hfiles item List.mem_cons_self)).bind
      fun classes decl => (ih fun other hother => hfiles other (List.mem_cons_of_mem _ hother)).bind
        fun others decls => Gen.Alike.pure fun hothers hplaced => ?_
    rw [List.flatMap_cons]
    exact List.rel_append hplaced hothers

end

end Catalog

namespace Generator

variable {generator : Generator}

/-- The messages of a schema are those of its modules, one module after the other. -/
theorem messages_eq_flatMap (generator : Generator) :
    generator.items.flatMap (fun item => generator.catalog.messagesOf item.2) = generator.catalog.messages := by
  have hindices : (generator.items.map (·.2)).Pairwise (· < ·) := by
    refine List.Pairwise.sublist (List.filter_sublist.map _) ?_
    rw [List.zipIdx_map_snd]
    exact List.pairwise_lt_range'
  have hmem : ∀ entry ∈ generator.catalog.messages, entry.fileIndex ∈ generator.items.map (·.2) := by
    intro entry hentry
    obtain ⟨hfile, d, hd, _⟩ := Catalog.mem_messages_ofSchema hentry
    exact List.mem_map.2 ⟨_, mem_items hfile hd, rfl⟩
  rw [← List.flatMap_map]
  exact flatMap_filter_index (Catalog.messages_pairwise generator.schema) hindices hmem

theorem paired_of_registered {base last : SymbolTable} (hregistered : generator.catalog.Registered base)
    (hlast : ∀ key, last.find? key = base.find? key) :
    Gen.Paired (SameSymbols base) last
      (fun classes decls => List.Forall₂
        (fun decl placed => generator.catalog.Placed generator.config last placed.1 decl placed.2)
        classes (decls.flatMap ModuleDecl.placedClasses))
      (generator.catalog.messages.mapM (generator.catalog.classOf ⟨.table, generator.config⟩))
      (generator.items.mapM fun item => generator.catalog.moduleDecl generator.config item.1 item.2) base base := by
  rw [← generator.messages_eq_flatMap]
  refine Catalog.moduleDecls_placed generator.config (Catalog.coherent_ofSchema generator.schema) hregistered hlast ?_
    base base ⟨fun _ => rfl, fun _ => rfl⟩
  intro item hitem entry hentry
  exact (Catalog.mem_messagesOf (List.mem_filter.1 hitem).1 hentry).2

theorem map_identity_classes {base later : SymbolTable} {classes : List ClassDecl}
    (hrun : (generator.catalog.messages.mapM (generator.catalog.classOf ⟨.table, generator.config⟩)).run base =
      (.ok classes, later)) :
    classes.map (·.identity) = generator.catalog.messages.map (·.identity) := by
  have hmade := Gen.Makes.mapM (fun entry hentry => Catalog.classOf_makes
    (Catalog.coherent_ofSchema generator.schema) ⟨.table, generator.config⟩ hentry) base classes later hrun
  refine Eq.symm ?_
  rw [← List.forall₂_eq_eq_eq, List.forall₂_map_left_iff, List.forall₂_map_right_iff]
  exact hmade.imp fun _ _ hidentity => hidentity.symm

/-- The modules of a schema hold its classes: module after module, the classes that are made on their own, each of them
once. -/
structure Agree (generator : Generator) (classes : List ClassDecl) (decls : List ModuleDecl) (table : SymbolTable) :
    Prop where
  identities : classes.map (·.identity) = generator.catalog.messages.map (·.identity)
  distinct : (generator.catalog.messages.map (·.identity)).Nodup
  placed : List.Forall₂ (fun decl placed => generator.catalog.Placed generator.config table placed.1 decl placed.2)
    classes (decls.flatMap ModuleDecl.placedClasses)

/-- On a fresh generator, making the classes and making the modules both fail with one error or both succeed, and then
the modules hold the classes. -/
theorem classes_agree_with_modules (generator : Generator) :
    (∃ e, (generator.classes.run {}).1 = .error e ∧ (generator.modules.run {}).1 = .error e) ∨
      ∃ classes decls table table', generator.classes.run {} = (.ok classes, table) ∧
        generator.moduleDecls.run {} = (.ok decls, table') ∧
        generator.modules.run {} = (.ok (decls.map ModuleDecl.render), table') ∧
        generator.Agree classes decls table' := by
  have hcatalog := Catalog.coherent_ofSchema generator.schema
  obtain ⟨base, hreserve, _, hregistered, _⟩ := Catalog.run_reserve hcatalog
  have hdecls : generator.moduleDecls.run {} =
      (generator.items.mapM fun item => generator.catalog.moduleDecl generator.config item.1 item.2).run base :=
    Gen.run_bind_of_ok hreserve
  rw [run_classes hreserve, hdecls]
  have hown : ∀ key, base.find? key = base.find? key := fun _ => rfl
  rcases paired_of_registered hregistered hown with
    ⟨hclasses, hmodules, hsame, _, _⟩ | ⟨hclasses, hmodules⟩
  · -- the names are settled in the table that the modules leave behind
    rcases paired_of_registered hregistered hsame.right with
      ⟨hclasses', hmodules', _, _, hplaced⟩ | ⟨hclasses', _⟩
    · cases hclasses.symm.trans hclasses'
      cases hmodules.symm.trans hmodules'
      refine Or.inr ⟨_, _, _, _, hclasses, hmodules, Gen.run_bind_of_ok (hdecls.trans hmodules),
        map_identity_classes hclasses, ?_, hplaced (Extends.refl _)⟩
      exact List.pairwise_map.2 hcatalog.messages
    · cases hclasses.symm.trans hclasses'
  · refine Or.inl ⟨_, congrArg Prod.fst hclasses, ?_⟩
    exact congrArg Prod.fst (Gen.run_bind_of_error (hdecls.trans hmodules))

end Generator

end ProtoClass
