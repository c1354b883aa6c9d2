import ProtoClass.Proofs.Symbol.Scopes

/-!
# Steps that only resolve symbols

Once all names are registered, generation does nothing to the symbol table but resolve symbols.  `Gen.Resolving` says
this of a step, whatever it makes of the names and whether it succeeds or not.

* Such a step declares nothing, takes back no local name, and touches the imports of its own file only
  (`Resolving.continues`, `Resolving.elsewhere`).
* Run again later, it finds all names settled: it answers as it did, the same error included, and leaves the table as it
  is (`Resolving.again`).
-/

namespace ProtoClass

namespace SymbolTable

variable {table later last : SymbolTable} {scope : Scope} {identity : Identity} {kind : SymbolKind} {name : String}

/-- A later table with the same symbols, in which every local name is what it was. -/
structure Continues (table later : SymbolTable) : Prop extends Extends table later where
  symbols : later.symbols = table.symbols

theorem Continues.refl (table : SymbolTable) : Continues table table :=
  ⟨Extends.refl table, rfl⟩

theorem Continues.trans (h : Continues table later) (h' : Continues later last) : Continues table last :=
  ⟨h.toExtends.trans h'.toExtends, h'.symbols.trans h.symbols⟩

theorem Continues.find?_eq (h : Continues table later) (key : SymbolKey) : later.find? key = table.find? key := by
  unfold SymbolTable.find?
  rw [h.symbols]

/-- A settled name is given again, and the table stays as it is. -/
theorem Settled.resolve (h : Settled table scope ⟨identity, kind⟩ name) :
    (Gen.resolve scope identity kind).run table = (.ok name, table) := by
  cases scope with
  | table =>
    obtain ⟨s, hs, rfl⟩ := h
    rw [Gen.run_resolve_table, lookup_eq_ok.2 hs]
    rfl
  | file file => exact NamedIn.resolve h

/-- Resolving fails and will always fail, or settles a name. -/
theorem resolve_settles (scope : Scope) (identity : Identity) (kind : SymbolKind) (table : SymbolTable) :
    (∃ e, ∀ later, Continues table later → (Gen.resolve scope identity kind).run later = (.error e, later)) ∨
      ∃ name table', (Gen.resolve scope identity kind).run table = (.ok name, table') ∧
        Referenced scope [⟨identity, kind⟩] table table' ∧ Settled table' scope ⟨identity, kind⟩ name := by
  rcases hkey : table.find? ⟨identity, kind⟩ with _ | s
  · refine Or.inl ⟨_, fun later hlater => run_resolve_of_find? ?_⟩
    rw [hlater.find?_eq, hkey]
  · have hknown := resolve_of_known scope hkey
    exact Or.inr hknown

end SymbolTable

namespace Gen

open SymbolTable

variable {α β : Type} {scope : Scope}

/-- A step that resolves symbols where it stands, one after the other, and then makes something or fails. -/
inductive Resolving (scope : Scope) : Gen α → Prop
  | pure (a : α) : Resolving scope (pure a)
  | throw (e : GenError) : Resolving scope (throw e)
  | resolve (identity : Identity) (kind : SymbolKind) {next : String → Gen α}
      (h : ∀ name, Resolving scope (next name)) : Resolving scope (Gen.resolve scope identity kind >>= next)

namespace Resolving

variable {step : Gen α}

theorem bind {next : α → Gen β} (h : Resolving scope step) (h' : ∀ a, Resolving scope (next a)) :
    Resolving scope (step >>= next) := by
  induction h with
  | pure a =>
    rw [pure_bind]
    exact h' a
  | throw e => exact .throw e
  | resolve identity kind _ ih =>
    rw [bind_assoc]
    exact .resolve identity kind ih

theorem ofExcept (scope : Scope) (result : Except GenError α) : Resolving scope (Gen.ofExcept result) := by
  cases result with
  | ok a => exact .pure a
  | error e => exact .throw e

theorem returning {f : α → β} (h : Resolving scope step) : Resolving scope (step >>= fun a => Pure.pure (f a)) :=
  h.bind fun a => .pure (f a)

theorem mapM {step : α → Gen β} {l : List α} (h : ∀ a ∈ l, Resolving scope (step a)) :
    Resolving scope (l.mapM step) := by
  induction l with
  | nil => exact .pure []
  | cons a rest ih =>
    rw [List.mapM_cons]
    exact (h a List.mem_cons_self).bind fun _ => (ih fun a' ha' => h a' (List.mem_cons_of_mem _ ha')).returning

/-! ### What such a step does to the table -/

theorem continues (h : Resolving scope step) (table : SymbolTable) : Continues table (step.run table).2 := by
  induction h generalizing table with
  | pure a => exact Continues.refl table
  | throw e => exact Continues.refl table
  | resolve identity kind _ ih =>
    rcases resolve_settles scope identity kind table with ⟨e, hfails⟩ | ⟨name, middle, hrun, href, _⟩
    · rw [run_bind_of_error (hfails table (Continues.refl table))]
      exact Continues.refl table
    · rw [run_bind_of_ok hrun]
      exact Continues.trans ⟨href.grows, href.symbols⟩ (ih name middle)

/-- The imports of other files stay as they are. -/
theorem elsewhere (h : Resolving scope step) {file : String} (hfile : scope ≠ .file file) (table : SymbolTable) :
    (step.run table).2.importsOf file = table.importsOf file := by
  induction h generalizing table with
  | pure a => rfl
  | throw e => rfl
  | resolve identity kind _ ih =>
    rcases resolve_settles scope identity kind table with ⟨e, hfails⟩ | ⟨name, middle, hrun, href, _⟩
    · rw [run_bind_of_error (hfails table (Continues.refl table))]
    · rw [run_bind_of_ok hrun, ih name middle]
      exact href.elsewhere file hfile

/-- From any table that continues the one it left behind, the step answers the same and changes nothing. -/
theorem again (h : Resolving scope step) {table later : SymbolTable} (hlater : Continues (step.run table).2 later) :
    step.run later = ((step.run table).1, later) := by
  induction h generalizing table with
  | pure a => rfl
  | throw e => rfl
  | @resolve identity kind next hnext ih =>
    rcases resolve_settles scope identity kind table with ⟨e, hfails⟩ | ⟨name, middle, hrun, _, hsettled⟩
    · have hrun := hfails table (Continues.refl table)
      rw [run_bind_of_error hrun] at hlater ⊢
      exact run_bind_of_error (hfails later hlater)
    · rw [run_bind_of_ok hrun] at hlater ⊢
      -- the name was settled when the rest of the step began, so it is settled now
      have hnow := (hsettled.mono ((hnext name).continues middle).toExtends).mono hlater.toExtends
      rw [run_bind_of_ok hnow.resolve]
      exact ih name hlater

/-- Outside of all files, resolving leaves the table as it is. -/
theorem table_eq (h : Resolving .table step) (table : SymbolTable) :
    (step.run table).2 = table := by
  induction h generalizing table with
  | pure a => rfl
  | throw e => rfl
  | resolve identity kind _ ih =>
    rcases resolve_settles .table identity kind table with ⟨e, hfails⟩ | ⟨name, middle, hrun, _, _⟩
    · rw [run_bind_of_error (hfails table (Continues.refl table))]
    · rw [run_bind_of_ok hrun, ih name middle]
      rw [run_resolve_table] at hrun
      exact (Prod.mk.inj hrun).2.symm

end Resolving

end Gen

end ProtoClass
