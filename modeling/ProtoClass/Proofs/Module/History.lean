import ProtoClass.Proofs.Class.Resolving
import ProtoClass.Proofs.Module.Linking

/-!
# Answers do not depend on what was asked before

A generator keeps its symbol table from one request to the next, and a request that fails leaves behind what it did.
Still, if all files have different names, every request is answered as by a fresh generator (`answers_eq_map_fresh`).

* Modules that are made again, whether all of them were made or not, find the imports that they left behind and answer
  the same (`moduleDecls_again`).
* So the table of a generator is one of three: the empty one, the one with all names reserved, and the one that making
  the modules leaves behind (`Visited`, `Visited.serve`).
-/

namespace ProtoClass

open SymbolTable

namespace Catalog

variable (catalog : Catalog) (config : Config)

/-- A module is made of the declarations of a file and of what the file imports when they are made. -/
theorem run_moduleDecl (file : FileDecl) (index : Nat) (table : SymbolTable) :
    (catalog.moduleDecl config file index).run table =
      (((catalog.fileDecls ⟨.file file.name, config⟩ index).run table).1.map fun decls =>
          ⟨file.name, ((catalog.fileDecls ⟨.file file.name, config⟩ index).run table).2.importList file.name,
            decls.1, decls.2⟩,
        ((catalog.fileDecls ⟨.file file.name, config⟩ index).run table).2) := by
  unfold moduleDecl
  rw [Gen.run_bind]
  rcases (catalog.fileDecls ⟨.file file.name, config⟩ index).run table with ⟨_ | decls, later⟩ <;> rfl

/-- A module is made again, or fails again, where the imports of its file are those that it left behind. -/
theorem moduleDecl_again {file : FileDecl} {index : Nat} {table later : SymbolTable}
    (hlater : Continues ((catalog.moduleDecl config file index).run table).2 later)
    (himports : later.importsOf file.name = ((catalog.moduleDecl config file index).run table).2.importsOf file.name) :
    (catalog.moduleDecl config file index).run later =
      (((catalog.moduleDecl config file index).run table).1, later) := by
  rw [run_moduleDecl] at hlater himports
  have hagain := (catalog.fileDecls_resolving ⟨.file file.name, config⟩ index).again hlater
  rw [run_moduleDecl, run_moduleDecl, hagain, importList, importList, himports]

theorem moduleDecls_continues (items : List (FileDecl × Nat)) (table : SymbolTable) :
    Continues table ((items.mapM fun item => catalog.moduleDecl config item.1 item.2).run table).2 := by
  have hstep : ∀ item ∈ items, Gen.Keeps (Continues table) (catalog.moduleDecl config item.1 item.2) := by
    intro item _ middle hmiddle
    rw [run_moduleDecl]
    exact hmiddle.trans ((catalog.fileDecls_resolving ⟨.file item.1.name, config⟩ item.2).continues middle)
  exact Gen.Keeps.mapM hstep table (Continues.refl table)

/-- Making the modules of other files leaves the imports of a file alone. -/
theorem moduleDecls_elsewhere {items : List (FileDecl × Nat)} {file : String} (hfile : file ∉ items.map (·.1.name))
    (table : SymbolTable) :
    ((items.mapM fun item => catalog.moduleDecl config item.1 item.2).run table).2.importsOf file =
      table.importsOf file := by
  have hstep : ∀ item ∈ items, Gen.Keeps (fun later => later.importsOf file = table.importsOf file)
      (catalog.moduleDecl config item.1 item.2) := by
    intro item hitem middle hmiddle
    have hother : Scope.file item.1.name ≠ .file file := by
      rintro ⟨⟩
      exact hfile (List.mem_map.2 ⟨item, hitem, rfl⟩)
    rw [run_moduleDecl]
    exact ((catalog.fileDecls_resolving ⟨.file item.1.name, config⟩ item.2).elsewhere hother middle).trans hmiddle
  exact Gen.Keeps.mapM hstep table rfl

/-- Modules of files with different names are made again, or fail again, from the table that they left behind. -/
theorem moduleDecls_again {items : List (FileDecl × Nat)} (hitems : (items.map (·.1.name)).Nodup)
    {table later : SymbolTable}
    (hlater : Continues ((items.mapM fun item => catalog.moduleDecl config item.1 item.2).run table).2 later)
    (himports : ∀ item ∈ items, later.importsOf item.1.name =
      ((items.mapM fun item => catalog.moduleDecl config item.1 item.2).run table).2.importsOf item.1.name) :
    (items.mapM fun item => catalog.moduleDecl config item.1 item.2).run later =
      (((items.mapM fun item => catalog.moduleDecl config item.1 item.2).run table).1, later) := by
  induction items generalizing table with
  | nil => rfl
  | cons item rest ih =>
    obtain ⟨hfirst, hrest⟩ := List.nodup_cons.1 hitems
    rw [List.mapM_cons] at hlater himports ⊢
    have hagain (hlater : Continues ((catalog.moduleDecl config item.1 item.2).run table).2 later) :=
      catalog.moduleDecl_again config hlater
    rcases hrun : (catalog.moduleDecl config item.1 item.2).run table with ⟨e | decl, middle⟩ <;> rw [hrun] at hagain
    · rw [Gen.run_bind_of_error hrun] at hlater himports ⊢
      exact Gen.run_bind_of_error (hagain hlater (himports item List.mem_cons_self))
    · have hcons : ∀ (step : Gen (List ModuleDecl)) (table : SymbolTable),
          (step >>= fun decls => pure (decl :: decls)).run table =
            ((step.run table).1.map (decl :: ·), (step.run table).2) :=
        fun step table => Gen.run_map (decl :: ·) step table
      rw [Gen.run_bind_of_ok hrun, hcons] at hlater himports ⊢
      -- the other modules have left the imports of the first file alone
      have hcontinues := catalog.moduleDecls_continues config rest middle
      have helsewhere := catalog.moduleDecls_elsewhere config hfirst middle
      have hdecl := hagain (hcontinues.trans hlater) ((himports item List.mem_cons_self).trans helsewhere)
      have hothers := ih hrest hlater fun other hother => himports other (List.mem_cons_of_mem _ hother)
      rw [Gen.run_bind_of_ok hdecl, hcons, hothers]

end Catalog

namespace Generator

variable {generator : Generator}

/-- What a generator answers to a request. -/
inductive Answer where
  | reserve (result : Except GenError Unit)
  | classes (result : Except GenError (List ClassDecl))
  | modules (result : Except GenError (List GeneratedModule))

def answer (generator : Generator) (table : SymbolTable) : Request → Answer
  | .reserve => .reserve (generator.reserve.run table).1
  | .classes => .classes (generator.classes.run table).1
  | .modules => .modules (generator.modules.run table).1

/-- The answers to requests that are made one after the other. -/
def answers (generator : Generator) (table : SymbolTable) : List Request → List Answer
  | [] => []
  | request :: rest => generator.answer table request :: generator.answers (generator.serve table request) rest

/-- The tables that a generator can have: the empty one, the one with all names reserved, and the one that is left
behind when the modules are made, completely or not. -/
def Visited (generator : Generator) (table : SymbolTable) : Prop :=
  table = {} ∨ table = (generator.reserve.run {}).2 ∨ table = (generator.modules.run {}).2

theorem classes_resolving (generator : Generator) :
    Gen.Resolving .table
      (generator.catalog.messages.mapM (generator.catalog.classOf ⟨.table, generator.config⟩)) :=
  Gen.Resolving.mapM fun entry _ => generator.catalog.classOf_resolving ⟨.table, generator.config⟩ entry

theorem run_modules_eq {table table' : SymbolTable} (h : generator.catalog.reserve.run table = (.ok (), table')) :
    let made := (generator.items.mapM fun item =>
      generator.catalog.moduleDecl generator.config item.1 item.2).run table'
    generator.modules.run table = (made.1.map (·.map ModuleDecl.render), made.2) := by
  rw [run_modules h]
  exact Gen.run_map (List.map ModuleDecl.render) _ table'

section Reserved

variable {base : SymbolTable} (hreserve : generator.catalog.reserve.run {} = (.ok (), base))
  (hregistered : generator.catalog.Registered base)

include hreserve hregistered

/-- Once names are reserved they stay so, and making the classes again gives the same. -/
theorem run_of_continues {later : SymbolTable} (hlater : Continues base later) :
    generator.catalog.reserve.run later = (.ok (), later) ∧
      generator.classes.run later = ((generator.classes.run {}).1, later) := by
  have hknown := (hregistered.of_extends hlater.toExtends).run_reserve
  refine ⟨hknown, ?_⟩
  rw [run_classes hreserve, run_classes hknown]
  refine generator.classes_resolving.again ?_
  rwa [generator.classes_resolving.table_eq]

/-- Making the modules again gives the same. -/
theorem run_modules_again (hfiles : (generator.schema.files.map (·.name)).Nodup) :
    Continues base (generator.modules.run {}).2 ∧
      generator.modules.run (generator.modules.run {}).2 = generator.modules.run {} := by
  have hitems := generator.nodup_names_items hfiles
  rw [run_modules_eq hreserve]
  have hlater := generator.catalog.moduleDecls_continues generator.config generator.items base
  have hknown := (run_of_continues hreserve hregistered hlater).1
  refine ⟨hlater, ?_⟩
  rw [run_modules_eq hknown, generator.catalog.moduleDecls_again generator.config hitems (Continues.refl _)
    fun _ _ => rfl]

end Reserved

/-- From a table that a generator can have, a request is answered as by a fresh generator and leaves such a table
behind. -/
theorem Visited.serve {table : SymbolTable} (hfiles : (generator.schema.files.map (·.name)).Nodup)
    (h : generator.Visited table) (request : Request) :
    generator.answer table request = generator.answer {} request ∧
      generator.Visited (generator.serve table request) := by
  have hfresh : generator.Ready {} := Or.inl rfl
  obtain ⟨base, hreserve, hregistered⟩ := hfresh.run_reserve
  have hbase : (generator.reserve.run {}).2 = base := congrArg Prod.snd hreserve
  obtain ⟨hfinished, hagain⟩ := run_modules_again hreserve hregistered hfiles
  rcases h with rfl | hlater
  · refine ⟨rfl, ?_⟩
    cases request with
    | reserve => exact Or.inr (Or.inl rfl)
    | classes =>
      refine Or.inr (Or.inl ?_)
      show (generator.classes.run {}).2 = _
      rw [run_classes hreserve, generator.classes_resolving.table_eq, hbase]
    | modules => exact Or.inr (Or.inr rfl)
  · have hvisited : generator.Visited table := Or.inr hlater
    -- the names are reserved, and the modules were made or not
    have hcontinues : Continues base table := by
      rcases hlater with rfl | rfl
      · exact hbase ▸ Continues.refl base
      · exact hfinished
    have hmodules : generator.modules.run table = generator.modules.run {} := by
      rcases hlater with rfl | rfl
      · rw [hbase, run_modules_eq hreserve, run_modules_eq hregistered.run_reserve]
      · exact hagain
    obtain ⟨hknown, hclasses⟩ := run_of_continues hreserve hregistered hcontinues
    cases request with
    | reserve =>
      show Answer.reserve (generator.catalog.reserve.run table).1 = .reserve (generator.catalog.reserve.run {}).1 ∧
        generator.Visited (generator.catalog.reserve.run table).2
      rw [hknown, hreserve]
      exact ⟨rfl, hvisited⟩
    | classes =>
      show Answer.classes (generator.classes.run table).1 = _ ∧ generator.Visited (generator.classes.run table).2
      rw [hclasses]
      exact ⟨rfl, hvisited⟩
    | modules =>
      show Answer.modules (generator.modules.run table).1 = _ ∧ generator.Visited (generator.modules.run table).2
      rw [hmodules]
      exact ⟨rfl, Or.inr (Or.inr rfl)⟩

/-- If all files have different names, a generator answers every request as a fresh one does, whatever it was asked
before and whether it could answer or not. -/
theorem answers_eq_map_fresh (generator : Generator) (hfiles : (generator.schema.files.map (·.name)).Nodup)
    (requests : List Request) : generator.answers {} requests = requests.map (generator.answer {}) := by
  have hrun : ∀ table, generator.Visited table →
      generator.answers table requests = requests.map (generator.answer {}) := by
    induction requests with
    | nil => exact fun _ _ => rfl
    | cons request rest ih =>
      intro table htable
      obtain ⟨hanswer, hserve⟩ := htable.serve hfiles request
      rw [answers, List.map_cons, hanswer, ih _ hserve]
  exact hrun {} (Or.inl rfl)

/-- A schema whose second file imports a message before it fails: a group cannot be held by code. -/
def stalled : Generator where
  schema := ⟨[{ name := "a.proto", package := some "a", messages := [{ name := "Node" }] },
              { name := "b.proto"
                package := some "b"
                messages :=
                  [{ name := "Node"
                     fields :=
                       [{ name := "far", number := 1, type := .message ".a.Node" },
                        { name := "old", number := 2, type := .group "Old" }] }] }]⟩
  config := {}

theorem answers_eq_map_fresh_stalled :
    (stalled.schema.files.map (·.name)).Nodup ∧
      (stalled.modules.run {}).2.importList "b.proto" = [("a.proto", ["Node as Node$1"])] ∧
      (∃ e, (stalled.modules.run {}).1 = .error e) ∧
      stalled.answers {} [.modules, .classes, .modules] =
        [.modules, .classes, .modules].map (stalled.answer {}) := by
  have hfiles : (stalled.schema.files.map (·.name)).Nodup := by decide
  refine ⟨hfiles, by decide +kernel, ?_, answers_eq_map_fresh stalled hfiles _⟩
  rcases hrun : (stalled.modules.run {}).1 with e | modules
  · exact ⟨e, rfl⟩
  · have hfails : (stalled.modules.run {}).1.isOk = false := by decide +kernel
    rw [hrun] at hfails
    cases hfails

end Generator

end ProtoClass
