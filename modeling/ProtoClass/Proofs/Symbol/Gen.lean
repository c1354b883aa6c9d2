import Mathlib.Data.List.Forall2
import ProtoClass.Symbol.Table

/-!
# Running generation steps

What a generation step answers from a given table, and the table it leaves behind.  A step made of two parts runs the
second from the table that the first one left, and only if the first one succeeded (`Gen.run_bind`); a failing step
keeps what it did to the table.  What a successful step makes can be described part by part (`Gen.Makes`).
-/

namespace ProtoClass.Gen

variable {α β : Type}

@[simp] theorem run_pure (a : α) (table : SymbolTable) : (pure a : Gen α).run table = (.ok a, table) := rfl

@[simp] theorem run_throw (e : GenError) (table : SymbolTable) :
    (throw e : Gen α).run table = (.error e, table) := rfl

@[simp] theorem run_get (table : SymbolTable) : (get : Gen SymbolTable).run table = (.ok table, table) := rfl

theorem run_bind (step : Gen α) (next : α → Gen β) (table : SymbolTable) :
    (step >>= next).run table =
      match step.run table with
      | (.ok a, table') => (next a).run table'
      | (.error e, table') => (.error e, table') := by
  show (match step.run table with | (result, table') => ExceptT.bindCont next result table') = _
  rcases step.run table with ⟨_ | a, table'⟩ <;> rfl

theorem run_bind_of_ok {step : Gen α} {next : α → Gen β} {table table' : SymbolTable} {a : α}
    (h : step.run table = (.ok a, table')) : (step >>= next).run table = (next a).run table' := by
  rw [run_bind, h]

theorem run_bind_of_error {step : Gen α} {next : α → Gen β} {table table' : SymbolTable} {e : GenError}
    (h : step.run table = (.error e, table')) : (step >>= next).run table = (.error e, table') := by
  rw [run_bind, h]

theorem run_bind_eq_ok {step : Gen α} {next : α → Gen β} {table table' : SymbolTable} {b : β}
    (h : (step >>= next).run table = (.ok b, table')) :
    ∃ a middle, step.run table = (.ok a, middle) ∧ (next a).run middle = (.ok b, table') := by
  rw [run_bind] at h
  rcases hs : step.run table with ⟨_ | a, middle⟩
  · rw [hs] at h
    cases h
  · rw [hs] at h
    exact ⟨a, middle, rfl, h⟩

theorem exists_run_eq_ok {step : Gen α} {table : SymbolTable} (h : (step.run table).1.isOk = true) :
    ∃ a table', step.run table = (.ok a, table') := by
  rcases hrun : step.run table with ⟨e | a, table'⟩
  · rw [hrun] at h
    cases h
  · exact ⟨a, table', rfl⟩

theorem run_map (f : α → β) (step : Gen α) (table : SymbolTable) :
    (f <$> step).run table = ((step.run table).1.map f, (step.run table).2) := by
  show (step >>= fun a => pure (f a)).run table = _
  rw [run_bind]
  rcases step.run table with ⟨_ | a, table'⟩ <;> rfl

@[simp] theorem run_ofExcept (result : Except GenError α) (table : SymbolTable) :
    (ofExcept result).run table = (result, table) := by
  cases result <;> rfl

theorem run_register (name : String) (identity : Identity) (file : String) (kind : SymbolKind)
    (table : SymbolTable) :
    (register name identity file kind).run table =
      match table.register name identity file kind with
      | .ok (allocated, table') => (.ok allocated, table')
      | .error e => (.error e, table) := by
  unfold register
  rw [run_bind_of_ok (run_get table)]
  rcases table.register name identity file kind with e | ⟨allocated, table'⟩ <;> rfl

@[simp] theorem run_lookup (identity : Identity) (kind : SymbolKind) (table : SymbolTable) :
    (lookup identity kind).run table = (table.lookup identity kind, table) := by
  unfold lookup
  rw [run_bind_of_ok (run_get table), run_ofExcept]

theorem run_resolve_table (identity : Identity) (kind : SymbolKind) (table : SymbolTable) :
    (resolve .table identity kind).run table = ((table.lookup identity kind).map (·.name), table) := by
  unfold resolve
  rw [run_bind, run_lookup]
  cases table.lookup identity kind <;> rfl

theorem run_resolve_file (file : String) (identity : Identity) (kind : SymbolKind) (table : SymbolTable) :
    (resolve (.file file) identity kind).run table =
      match table.lookup identity kind with
      | .error e => (.error e, table)
      | .ok symbol =>
        if symbol.file = file then (.ok symbol.name, table)
        else (.ok (table.importInto file symbol).1, (table.importInto file symbol).2) := by
  unfold resolve
  rw [run_bind, run_lookup]
  cases table.lookup identity kind with
  | error e => rfl
  | ok symbol =>
    show (if symbol.file = file then (pure symbol.name : Gen String)
      else modifyGet fun table => table.importInto file symbol).run table = _
    by_cases hfile : symbol.file = file
    · simp only [hfile, if_true]
      rfl
    · simp only [hfile, if_false]
      rfl

/-! ### What a step makes -/

/-- Whatever a step makes has the property, if it makes anything. -/
def Makes (step : Gen α) (good : α → Prop) : Prop :=
  ∀ table a table', step.run table = (.ok a, table') → good a

theorem Makes.pure {good : α → Prop} {a : α} (h : good a) : Makes (pure a) good := by
  rintro table _ _ ⟨⟩
  exact h

theorem Makes.anything (step : Gen α) : Makes step fun _ => True :=
  fun _ _ _ _ => trivial

theorem Makes.throw {good : α → Prop} {e : GenError} : Makes (throw e) good := by
  rintro table a table' ⟨⟩

theorem Makes.ofExcept {good : α → Prop} {result : Except GenError α} (h : ∀ a, result = .ok a → good a) :
    Makes (Gen.ofExcept result) good := by
  intro table a table' hrun
  rw [run_ofExcept] at hrun
  exact h a (Prod.mk.inj hrun).1

theorem Makes.bind {good : α → Prop} {good' : β → Prop} {step : Gen α} {next : α → Gen β} (h : Makes step good)
    (h' : ∀ a, good a → Makes (next a) good') : Makes (step >>= next) good' := by
  intro table b table' hrun
  obtain ⟨a, middle, hstep, hnext⟩ := run_bind_eq_ok hrun
  exact h' a (h table a middle hstep) middle b table' hnext

theorem Makes.mapM {step : α → Gen β} {good : α → β → Prop} {l : List α} (h : ∀ a ∈ l, Makes (step a) (good a)) :
    Makes (l.mapM step) (List.Forall₂ good l) := by
  induction l with
  | nil => exact Makes.pure List.Forall₂.nil
  | cons a rest ih =>
    rw [List.mapM_cons]
    refine (h a List.mem_cons_self).bind fun b hb => ?_
    refine (ih fun a' ha' => h a' (List.mem_cons_of_mem _ ha')).bind fun bs hbs => ?_
    exact Makes.pure (List.Forall₂.cons hb hbs)

end ProtoClass.Gen
