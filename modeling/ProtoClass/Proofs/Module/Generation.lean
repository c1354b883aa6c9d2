import ProtoClass.Proofs.Module.Acceptance

/-!
# What a generator can be asked for

A generator keeps its symbol table from one request to the next.  The first request registers all names, and from then
on they stay registered, whether requests succeed or not (`Ready.registered_serve`).  So a generator can always make
the classes of a schema whose fields are all accepted, and on any other it fails with a fault of the schema
(`classes_ok_iff_accepts`).
-/

namespace ProtoClass

open SymbolTable

namespace Catalog

variable {catalog : Catalog} {table : SymbolTable}

/-- What a file declares is registered for it. -/
theorem Registered.exists_symbol (h : catalog.Registered table) {file : String} {key : SymbolKey}
    (hkey : catalog.DeclaredIn file key) : ∃ s, table.find? key = some s ∧ s.file = file := by
  obtain ⟨identity, kind⟩ := key
  cases kind with
  | enum =>
    obtain ⟨entry, hentry, rfl, rfl⟩ := hkey
    obtain ⟨s, _, hs, hfile, _⟩ := h.enums entry hentry
    exact ⟨s, hs, hfile⟩
  | message =>
    obtain ⟨entry, hentry, rfl, rfl⟩ := hkey
    obtain ⟨s, _, hs, hfile, _⟩ := h.messages entry hentry
    exact ⟨s, hs, hfile⟩
  | constructorClass =>
    obtain ⟨entry, hentry, rfl, rfl⟩ := hkey
    obtain ⟨s, _, hs, hfile, _⟩ := h.classes entry hentry
    exact ⟨s, hs, hfile⟩

/-- All that the class of a message refers to is registered. -/
theorem Registered.classKeys (h : catalog.Registered table) {entry : Entry MessageDecl}
    (hentry : entry ∈ catalog.messages) : ∀ key ∈ catalog.classKeys entry, ∃ s, table.find? key = some s := by
  intro key hkey
  obtain ⟨file, hfile⟩ := declaredIn_of_mem_classKeys hentry hkey
  obtain ⟨s, hs, _⟩ := h.exists_symbol hfile
  exact ⟨s, hs⟩

/-- All that the code for a file declares or refers to is registered. -/
theorem Registered.fileKeys (h : catalog.Registered table) (index : Nat) :
    ∀ key ∈ catalog.fileKeys index, ∃ s, table.find? key = some s := by
  intro key hkey
  obtain ⟨file, hfile⟩ := declaredIn_of_mem_fileKeys hkey
  obtain ⟨s, hs, _⟩ := h.exists_symbol hfile
  exact ⟨s, hs⟩

end Catalog

namespace Generator

variable {generator : Generator} {table : SymbolTable}

/-- What a generator can be asked for.  Writing the modules does to its table what making them does. -/
inductive Request where
  | reserve | classes | modules

/-- The table after a request, answered or not. -/
def serve (generator : Generator) (table : SymbolTable) : Request → SymbolTable
  | .reserve => (generator.reserve.run table).2
  | .classes => (generator.classes.run table).2
  | .modules => (generator.modules.run table).2

/-- The table of a generator after some requests. -/
def tableAfter (generator : Generator) (requests : List Request) : SymbolTable :=
  requests.foldl generator.serve {}

/-- A generator is fresh or has its names registered. -/
def Ready (generator : Generator) (table : SymbolTable) : Prop :=
  table = {} ∨ generator.catalog.Registered table

theorem Ready.run_reserve (h : generator.Ready table) :
    ∃ table', generator.catalog.reserve.run table = (.ok (), table') ∧ generator.catalog.Registered table' := by
  rcases h with rfl | h
  · obtain ⟨table', hrun, _, hregistered, _⟩ := Catalog.run_reserve (Catalog.coherent_ofSchema generator.schema)
    exact ⟨table', hrun, hregistered⟩
  · exact ⟨table, h.run_reserve, h⟩

theorem run_classes {table' : SymbolTable} (h : generator.catalog.reserve.run table = (.ok (), table')) :
    generator.classes.run table =
      (generator.catalog.messages.mapM (generator.catalog.classOf ⟨.table, generator.config⟩)).run table' :=
  Gen.run_bind_of_ok h

theorem run_modules {table' : SymbolTable} (h : generator.catalog.reserve.run table = (.ok (), table')) :
    generator.modules.run table =
      ((generator.schema.files.zipIdx.filter fun (file, _) => !file.isEmpty).mapM (fun (file, index) =>
        generator.catalog.moduleDecl generator.config file index) >>= fun decls =>
          (pure (decls.map ModuleDecl.render) : Gen (List GeneratedModule))).run table' := by
  unfold modules moduleDecls
  rw [bind_assoc]
  exact Gen.run_bind_of_ok h

section

variable (hnumbers : ∀ entry ∈ generator.catalog.messages, entry.decl.MembersKeepNumbers)

include hnumbers

/-- Making all classes, once the names are registered. -/
theorem classes_outcome (h : generator.catalog.Registered table) :
    Gen.Outcome .table (generator.catalog.messages.mapM (generator.catalog.classOf ⟨.table, generator.config⟩))
      (∀ entry ∈ generator.catalog.messages, ∀ field ∈ entry.decl.fields, generator.catalog.Accepts entry field)
      (generator.catalog.messages.flatMap generator.catalog.classKeys)
      (fun names decls => List.Forall₂ (fun entry (decl : ClassDecl) =>
        decl.Shows names entry.identity (generator.catalog.fieldKeys entry)) generator.catalog.messages decls)
      table := by
  refine Gen.Refers.mapM _ (fun entry hentry => Catalog.classOf_refers
    (Catalog.coherent_ofSchema generator.schema) ⟨.table, generator.config⟩ hentry (hnumbers entry hentry)) table ?_
  intro key hkey
  obtain ⟨entry, hentry, hkey⟩ := List.mem_flatMap.1 hkey
  exact h.classKeys hentry key hkey

theorem moduleDecl_keeps (file : FileDecl) (index : Nat) :
    Gen.Keeps generator.catalog.Registered (generator.catalog.moduleDecl generator.config file index) := by
  have hdecls := Catalog.fileDecls_refers (Catalog.coherent_ofSchema generator.schema) hnumbers
    ⟨.file file.name, generator.config⟩ index
  have hkeeps := hdecls.keeps (fun _ h => Catalog.Registered.fileKeys h index) fun _ _ => Catalog.Registered.of_extends
  exact hkeeps.bind fun _ => Gen.Keeps.get.bind fun _ => Gen.Keeps.pure _

/-- A request leaves the names registered. -/
theorem Ready.registered_serve (h : generator.Ready table) (request : Request) :
    generator.catalog.Registered (generator.serve table request) := by
  obtain ⟨table', hrun, hregistered⟩ := h.run_reserve
  cases request with
  | reserve =>
    show generator.catalog.Registered (generator.catalog.reserve.run table).2
    rw [hrun]
    exact hregistered
  | classes =>
    show generator.catalog.Registered (generator.classes.run table).2
    rw [run_classes hrun]
    rcases classes_outcome hnumbers hregistered with ⟨_, hrun', href, _⟩ | ⟨_, hrun', _, hext⟩ <;> rw [hrun']
    · exact hregistered.of_extends href.grows
    · exact hregistered.of_extends hext
  | modules =>
    show generator.catalog.Registered (generator.modules.run table).2
    rw [run_modules hrun]
    exact (Gen.Keeps.mapM fun item _ => moduleDecl_keeps hnumbers item.1 item.2).bind
      (fun _ => Gen.Keeps.pure _) table' hregistered

/-- Whatever a generator was asked for, it is fresh or has its names registered. -/
theorem ready_tableAfter (requests : List Request) : generator.Ready (generator.tableAfter requests) := by
  suffices h : ∀ table, generator.Ready table → generator.Ready (requests.foldl generator.serve table) from
    h {} (Or.inl rfl)
  induction requests with
  | nil => exact fun _ htable => htable
  | cons request rest ih => exact fun table htable => ih _ (Or.inr (htable.registered_serve hnumbers request))

end

/-- Whatever a generator was asked for before, it makes the classes exactly if all fields are accepted, and any error
it answers is a fault of the schema: names never conflict, every field is found by its number, and no member of a oneof
is called like the discriminator. -/
theorem classes_ok_iff_accepts (generator : Generator) (requests : List Request)
    (h : ∀ entry ∈ generator.catalog.messages, (entry.decl.fields.map (·.number)).Nodup) :
    ((∃ classes, (generator.classes.run (generator.tableAfter requests)).1 = .ok classes) ↔
        ∀ entry ∈ generator.catalog.messages, ∀ field ∈ entry.decl.fields, generator.catalog.Accepts entry field) ∧
      ∀ e, (generator.classes.run (generator.tableAfter requests)).1 = .error e → e.IsSchemaFault := by
  have hnumbers : ∀ entry ∈ generator.catalog.messages, entry.decl.MembersKeepNumbers :=
    fun entry hentry => MessageDecl.membersKeepNumbers_of_nodup (h entry hentry)
  obtain ⟨table, hrun, hregistered⟩ := (ready_tableAfter hnumbers requests).run_reserve
  rw [run_classes hrun]
  rcases classes_outcome hnumbers hregistered with ⟨haccepts, hrun', _, _⟩ | ⟨hrejects, hrun', hfault, _⟩ <;> rw [hrun']
  · exact ⟨⟨fun _ => haccepts, fun _ => ⟨_, rfl⟩⟩, by simp⟩
  · refine ⟨⟨by simp, fun haccepts => absurd haccepts hrejects⟩, ?_⟩
    rintro e ⟨⟩
    exact hfault

/-- A schema with an enum, a map of messages, and a oneof with a member that is called like the discriminator. -/
def figures : Generator where
  schema := ⟨[{ name := "figures.proto"
                enums := [{ name := "Color", values := [] }]
                messages :=
                  [{ name := "Point", fields := [{ name := "x", number := 1, type := .scalar .int64 }] },
                   { name := "Figure"
                     fields :=
                       [{ name := "points", number := 1, type := .map .string (.message "Point") },
                        { name := "kind", number := 2, type := .enum "Color", oneof := some "fill" },
                        { name := "next", number := 3, type := .message "Figure", oneof := some "fill" }]
                     oneofs := [{ name := "fill" }] }] }]⟩
  config := {}

theorem classes_ok_iff_accepts_figures :
    (∀ entry ∈ figures.catalog.messages, (entry.decl.fields.map (·.number)).Nodup) ∧
      (∃ classes, (figures.classes.run (figures.tableAfter [.modules, .classes])).1 = .ok classes) ∧
      ∀ entry ∈ figures.catalog.messages, ∀ field ∈ entry.decl.fields, figures.catalog.Accepts entry field := by
  obtain ⟨classes, table, hrun⟩ : ∃ classes table,
      figures.classes.run (figures.tableAfter [.modules, .classes]) = (.ok classes, table) :=
    Gen.exists_run_eq_ok (by decide +kernel)
  have hmade : ∃ classes, (figures.classes.run (figures.tableAfter [.modules, .classes])).1 = .ok classes :=
    ⟨classes, by rw [hrun]⟩
  exact ⟨by decide, hmade, (classes_ok_iff_accepts figures [.modules, .classes] (by decide)).1.1 hmade⟩

end Generator

end ProtoClass
