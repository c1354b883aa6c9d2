import Mathlib.Data.List.Induction
import ProtoClass.Proofs.Symbol.Operations

/-!
# Sessions with a symbol table

A session performs calls one after another, from the empty table on, and keeps a log of the answers.  A call changes
the table by at most one step (`Call.perform_cases`, `Call.step`), so the maps agree in every session
(`Session.wellFormed`) and what one session knows every longer one knows (`Session.extends_performAll`).
-/

namespace ProtoClass

namespace SymbolTable

/-- A call of a symbol table. -/
inductive Call where
  | register (name : String) (identity : Identity) (file : String) (kind : SymbolKind)
  | lookup (identity : Identity) (kind : SymbolKind)
  | resolve (identity : Identity) (kind : SymbolKind)
  /-- resolving on behalf of a file -/
  | resolveIn (file : String) (identity : Identity) (kind : SymbolKind)
  | imports (file : String)
  deriving DecidableEq

/-- What a call answers if it succeeds. -/
inductive Answer where
  | name (text : String)
  | symbol (symbol : Symbol)
  | imports (list : List (String × List String))

/-- Performs a call. -/
def Call.perform : Call → Gen Answer
  | register name identity file kind => .name <$> Gen.register name identity file kind
  | lookup identity kind => .symbol <$> Gen.lookup identity kind
  | resolve identity kind => .name <$> Gen.resolve .table identity kind
  | resolveIn file identity kind => .name <$> Gen.resolve (.file file) identity kind
  | imports file => do
    let table ← get
    return .imports (table.importList file)

/-- A call with its outcome. -/
structure Event where
  call : Call
  outcome : Except GenError Answer

/-- The calls made so far with their outcomes, and the table they left. -/
structure Session where
  log : List Event := []
  table : SymbolTable := {}

namespace Session

/-- The session after one more call. -/
def perform (session : Session) (call : Call) : Session :=
  let (outcome, table) := call.perform.run session.table
  ⟨session.log ++ [⟨call, outcome⟩], table⟩

/-- The session after more calls. -/
def performAll (session : Session) (calls : List Call) : Session :=
  calls.foldl perform session

/-- The session that makes the calls on an empty table. -/
def ofCalls (calls : List Call) : Session :=
  performAll {} calls

@[simp] theorem performAll_nil (session : Session) : session.performAll [] = session := rfl

theorem ofCalls_append (calls later : List Call) :
    ofCalls (calls ++ later) = (ofCalls calls).performAll later :=
  List.foldl_append

theorem ofCalls_concat (calls : List Call) (call : Call) :
    ofCalls (calls ++ [call]) = (ofCalls calls).perform call :=
  ofCalls_append calls [call]

@[simp] theorem table_perform (session : Session) (call : Call) :
    (session.perform call).table = (call.perform.run session.table).2 := rfl

@[simp] theorem log_perform (session : Session) (call : Call) :
    (session.perform call).log = session.log ++ [⟨call, (call.perform.run session.table).1⟩] := rfl

end Session

/-! ### Single calls -/

variable {table table' : SymbolTable}

theorem run_perform_register (name : String) (identity : Identity) (file : String) (kind : SymbolKind) :
    (Call.register name identity file kind).perform.run table =
      (((Gen.register name identity file kind).run table).1.map .name,
        ((Gen.register name identity file kind).run table).2) :=
  Gen.run_map _ _ _

theorem run_perform_lookup (identity : Identity) (kind : SymbolKind) :
    (Call.lookup identity kind).perform.run table = ((table.lookup identity kind).map .symbol, table) := by
  simp [Call.perform, Gen.run_map]

theorem run_perform_resolve (identity : Identity) (kind : SymbolKind) :
    (Call.resolve identity kind).perform.run table =
      ((table.lookup identity kind).map fun s => .name s.name, table) := by
  simp only [Call.perform, Gen.run_map, Gen.run_resolve_table]
  cases table.lookup identity kind <;> rfl

theorem run_perform_resolveIn (file : String) (identity : Identity) (kind : SymbolKind) :
    (Call.resolveIn file identity kind).perform.run table =
      (((Gen.resolve (.file file) identity kind).run table).1.map .name,
        ((Gen.resolve (.file file) identity kind).run table).2) :=
  Gen.run_map _ _ _

/-- The three things that a call can do to the table: leave it alone, declare the symbol that it registers, or import
the symbol that it resolves. -/
theorem Call.perform_cases (call : Call) (table : SymbolTable) :
    (call.perform.run table).2 = table ∨
    (∃ name identity file kind, call = .register name identity file kind ∧ table.find? ⟨identity, kind⟩ = none ∧
      call.perform.run table = (.ok (.name (table.newSymbol name identity file kind).name),
        table.declare (table.newSymbol name identity file kind))) ∨
    (∃ file identity kind s, call = .resolveIn file identity kind ∧ table.find? ⟨identity, kind⟩ = some s ∧
      s.file ≠ file ∧ (table.importsOf file).localNames.lookup ⟨identity, kind⟩ = none ∧
      call.perform.run table = (.ok (.name (table.newLocalName file s)),
        table.addImport file s (table.newLocalName file s))) := by
  cases call with
  | register name identity file kind =>
    rw [run_perform_register]
    rcases register_cases table name identity file kind with hkey | ⟨s, hkey, hname, hfile⟩ | ⟨s, hkey, hother⟩
    · exact Or.inr (Or.inl ⟨name, identity, file, kind, rfl, hkey, by rw [run_register_new hkey]; rfl⟩)
    · exact Or.inl (by rw [run_register_known hkey hname hfile])
    · exact Or.inl (by rw [run_register_conflict hkey hother])
  | lookup identity kind => exact Or.inl (by rw [run_perform_lookup])
  | resolve identity kind => exact Or.inl (by rw [run_perform_resolve])
  | resolveIn file identity kind =>
    rw [run_perform_resolveIn]
    rcases resolve_cases table file identity kind with hkey | ⟨name, hname⟩ | ⟨s, hs, hfile, hnew⟩
    · exact Or.inl (by rw [run_resolve_unknown hkey])
    · exact Or.inl (by rw [hname.resolve])
    · refine Or.inr (Or.inr ⟨file, identity, kind, s, rfl, hs, hfile, hnew, ?_⟩)
      rw [run_resolve_new hs hfile hnew]
      rfl
  | imports file => exact Or.inl rfl

/-- A call leaves the table alone or changes it by one step. -/
theorem Call.step (call : Call) (table : SymbolTable) :
    (call.perform.run table).2 = table ∨ Step table (call.perform.run table).2 := by
  rcases call.perform_cases table with h | ⟨_, _, _, _, _, hkey, hrun⟩ | ⟨_, _, _, _, _, hs, hfile, hnew, hrun⟩
  · exact Or.inl h
  · rw [hrun]
    exact Or.inr (step_newSymbol hkey)
  · rw [hrun]
    exact Or.inr (step_newLocalName hs hfile hnew)

theorem Call.extends (call : Call) (table : SymbolTable) : Extends table (call.perform.run table).2 := by
  rcases call.step table with h | h
  · rw [h]
    exact Extends.refl table
  · exact h.extends

/-! ### Whole sessions -/

namespace Session

/-- Every session leaves a table whose maps agree. -/
theorem wellFormed (calls : List Call) : (ofCalls calls).table.WellFormed := by
  induction calls using List.reverseRecOn with
  | nil => exact wellFormed_empty
  | append_singleton calls call ih =>
    rw [ofCalls_concat, table_perform]
    rcases call.step (ofCalls calls).table with h | h
    · rw [h]
      exact ih
    · exact h.wellFormed ih

/-- Later calls take nothing back. -/
theorem extends_performAll (session : Session) (calls : List Call) :
    Extends session.table (session.performAll calls).table := by
  induction calls generalizing session with
  | nil => exact Extends.refl _
  | cons call calls ih => exact (call.extends session.table).trans (ih (session.perform call))

end Session

end SymbolTable

end ProtoClass
