import ProtoClass.Proofs.Symbol.Gen
import ProtoClass.Proofs.Symbol.Table

/-!
# What the operations of a symbol table do

Registering either declares a new symbol, or answers from the table and leaves it alone (`register_cases`); so does
resolving a name on behalf of a file, which imports at most one symbol (`resolve_cases`).  Nothing is ever taken back
(`SymbolTable.Extends`), so a name that was given once is given again (`NamedIn.resolve`, `NamedIn.mono`).
-/

namespace ProtoClass.SymbolTable

variable {table table' : SymbolTable} {file name : String} {identity : Identity} {kind : SymbolKind}

/-- All that is known in one table is known in the other, and the same. -/
structure Extends (table table' : SymbolTable) : Prop where
  find? : ∀ key symbol, table.find? key = some symbol → table'.find? key = some symbol
  declared : ∀ file name, name ∈ table.declaredIn file → name ∈ table'.declaredIn file
  localNames : ∀ file key name, (table.importsOf file).localNames.lookup key = some name →
    (table'.importsOf file).localNames.lookup key = some name

theorem Extends.refl (table : SymbolTable) : Extends table table :=
  ⟨fun _ _ h => h, fun _ _ h => h, fun _ _ _ h => h⟩

theorem Extends.trans {table₁ table₂ table₃ : SymbolTable} (h : Extends table₁ table₂)
    (h' : Extends table₂ table₃) : Extends table₁ table₃ where
  find? := fun key symbol hs => h'.find? key symbol (h.find? key symbol hs)
  declared := fun file name hn => h'.declared file name (h.declared file name hn)
  localNames := fun file key name hn => h'.localNames file key name (h.localNames file key name hn)

theorem Step.extends (hstep : Step table table') : Extends table table' := by
  cases hstep with
  | @declare symbol hkey hname =>
    refine ⟨fun key s hs => ?_, fun file name hn => ?_, fun file key name hn => hn⟩
    · show (table.symbols ++ [symbol]).find? _ = _
      rw [List.find?_append]
      exact Option.or_eq_some_iff.2 (Or.inl hs)
    · rw [declaredIn_declare]
      split
      · exact List.mem_cons_of_mem _ hn
      · exact hn
  | @addImport file symbol localName hsymbol hfile hnew hdeclared htaken =>
    refine ⟨fun key s hs => hs, fun file name hn => hn, fun other key name hn => ?_⟩
    rw [importsOf_addImport]
    split
    · rename_i heq
      subst heq
      have hne : key ≠ symbol.key := by
        rintro rfl
        simp [hnew] at hn
      rw [lookup_add, if_neg hne, hn]
    · exact hn

/-! ### Registering -/

/-- The symbol that registering a name adds, if its key is new. -/
def newSymbol (table : SymbolTable) (name : String) (identity : Identity) (file : String) (kind : SymbolKind) :
    Symbol :=
  ⟨Naming.firstFree (Naming.numbered name) (table.declaredIn file), name, identity, file, kind⟩

theorem run_register_new (hkey : table.find? ⟨identity, kind⟩ = none) :
    (Gen.register name identity file kind).run table =
      (.ok (table.newSymbol name identity file kind).name,
        table.declare (table.newSymbol name identity file kind)) := by
  simp [Gen.run_register, register, hkey, newSymbol]

theorem run_register_known {s : Symbol} (hkey : table.find? ⟨identity, kind⟩ = some s)
    (hname : s.requested = name) (hfile : s.file = file) :
    (Gen.register name identity file kind).run table = (.ok s.name, table) := by
  simp [Gen.run_register, register, hkey, hname, hfile]

theorem run_register_conflict {s : Symbol} (hkey : table.find? ⟨identity, kind⟩ = some s)
    (hother : s.requested ≠ name ∨ s.file ≠ file) :
    (Gen.register name identity file kind).run table =
      (.error (.symbolConflict name (s.name ++ " in " ++ s.file) (symbolLabel identity kind)), table) := by
  have h : ¬ (s.requested = name ∧ s.file = file) := by
    rintro ⟨hname, hfile⟩
    exact hother.elim (absurd hname) (absurd hfile)
  simp [Gen.run_register, register, hkey, h]

theorem step_newSymbol (hkey : table.find? ⟨identity, kind⟩ = none) :
    Step table (table.declare (table.newSymbol name identity file kind)) :=
  .declare hkey (Naming.firstFree_not_mem (Naming.numbered_injective name) _)

/-- The three outcomes of registering a name: a new symbol, the answer given before, or a conflict. -/
theorem register_cases (table : SymbolTable) (name : String) (identity : Identity) (file : String)
    (kind : SymbolKind) :
    table.find? ⟨identity, kind⟩ = none ∨
    (∃ s, table.find? ⟨identity, kind⟩ = some s ∧ s.requested = name ∧ s.file = file) ∨
    (∃ s, table.find? ⟨identity, kind⟩ = some s ∧ (s.requested ≠ name ∨ s.file ≠ file)) := by
  rcases table.find? ⟨identity, kind⟩ with _ | s
  · exact Or.inl rfl
  · by_cases h : s.requested = name ∧ s.file = file
    · exact Or.inr (Or.inl ⟨s, rfl, h⟩)
    · exact Or.inr (Or.inr ⟨s, rfl, Classical.not_and_iff_not_or_not.1 h⟩)

/-! ### Resolving on behalf of a file -/

/-- The name that `file` uses for a symbol is settled: the declared one in the file that declares the symbol, the
local one in a file that imports it. -/
def NamedIn (table : SymbolTable) (file : String) (key : SymbolKey) (name : String) : Prop :=
  ∃ s, table.find? key = some s ∧
    (s.file = file ∧ s.name = name ∨ s.file ≠ file ∧ (table.importsOf file).localNames.lookup key = some name)

theorem NamedIn.mono {key : SymbolKey} (h : NamedIn table file key name) (hext : Extends table table') :
    NamedIn table' file key name := by
  obtain ⟨s, hs, hcase⟩ := h
  refine ⟨s, hext.find? key s hs, ?_⟩
  rcases hcase with hlocal | ⟨hfile, hname⟩
  · exact Or.inl hlocal
  · exact Or.inr ⟨hfile, hext.localNames file key name hname⟩

theorem NamedIn.unique {key : SymbolKey} {name' : String} (h : NamedIn table file key name)
    (h' : NamedIn table file key name') : name = name' := by
  obtain ⟨s, hs, hcase⟩ := h
  obtain ⟨s', hs', hcase'⟩ := h'
  obtain rfl : s = s' := Option.some.inj (hs.symm.trans hs')
  rcases hcase with ⟨hfile, hname⟩ | ⟨hfile, hname⟩ <;> rcases hcase' with ⟨hfile', hname'⟩ | ⟨hfile', hname'⟩
  · exact hname.symm.trans hname'
  · exact absurd hfile hfile'
  · exact absurd hfile' hfile
  · exact Option.some.inj (hname.symm.trans hname')

theorem run_resolve_unknown (hkey : table.find? ⟨identity, kind⟩ = none) :
    (Gen.resolve (.file file) identity kind).run table =
      (.error (.unknownType (symbolLabel identity kind)), table) := by
  simp [Gen.run_resolve_file, lookup, hkey]

/-- A settled name is given again, and the table stays as it is. -/
theorem NamedIn.resolve (h : NamedIn table file ⟨identity, kind⟩ name) :
    (Gen.resolve (.file file) identity kind).run table = (.ok name, table) := by
  obtain ⟨s, hs, hcase⟩ := h
  rw [Gen.run_resolve_file, lookup_eq_ok.2 hs]
  rcases hcase with ⟨hfile, hname⟩ | ⟨hfile, hname⟩
  · simp [hfile, hname]
  · have hkey : s.key = ⟨identity, kind⟩ := (find?_eq_some hs).2
    simp [hfile, importInto, hkey, hname]

/-- The local name that resolving chooses on the first use of a symbol. -/
def newLocalName (table : SymbolTable) (file : String) (symbol : Symbol) : String :=
  Naming.firstFree (Naming.numbered symbol.name) (table.declaredIn file ++ (table.importsOf file).taken)

theorem newLocalName_free (table : SymbolTable) (file : String) (symbol : Symbol) :
    table.newLocalName file symbol ∉ table.declaredIn file ∧
      table.newLocalName file symbol ∉ (table.importsOf file).taken := by
  have hfree : table.newLocalName file symbol ∉ table.declaredIn file ++ (table.importsOf file).taken :=
    Naming.firstFree_not_mem (Naming.numbered_injective symbol.name) _
  rwa [List.mem_append, not_or] at hfree

theorem run_resolve_new {s : Symbol} (hs : table.find? ⟨identity, kind⟩ = some s) (hfile : s.file ≠ file)
    (hnew : (table.importsOf file).localNames.lookup ⟨identity, kind⟩ = none) :
    (Gen.resolve (.file file) identity kind).run table =
      (.ok (table.newLocalName file s), table.addImport file s (table.newLocalName file s)) := by
  have hkey : s.key = ⟨identity, kind⟩ := (find?_eq_some hs).2
  rw [Gen.run_resolve_file, lookup_eq_ok.2 hs]
  simp [hfile, importInto, hkey, hnew, newLocalName]

theorem step_newLocalName {s : Symbol} (hs : table.find? ⟨identity, kind⟩ = some s) (hfile : s.file ≠ file)
    (hnew : (table.importsOf file).localNames.lookup ⟨identity, kind⟩ = none) :
    Step table (table.addImport file s (table.newLocalName file s)) := by
  have hkey : s.key = ⟨identity, kind⟩ := (find?_eq_some hs).2
  have hfree := table.newLocalName_free file s
  exact .addImport (hkey ▸ hs) hfile (hkey ▸ hnew) hfree.1 hfree.2

/-- A local name after an import was there before, or is that of the import. -/
theorem localName_of_addImport {s : Symbol} {localName other : String} {key : SymbolKey}
    (h : ((table.addImport file s localName).importsOf other).localNames.lookup key = some name) :
    (table.importsOf other).localNames.lookup key = some name ∨ other = file ∧ key = s.key ∧ name = localName := by
  rw [importsOf_addImport] at h
  split at h
  · rename_i hother
    subst hother
    rw [lookup_add] at h
    split at h
    · rename_i hkey
      exact Or.inr ⟨rfl, hkey, (Option.some.inj h).symm⟩
    · exact Or.inl h
  · exact Or.inl h

theorem namedIn_addImport {s : Symbol} (hs : table.find? ⟨identity, kind⟩ = some s) (hfile : s.file ≠ file)
    (localName : String) : NamedIn (table.addImport file s localName) file ⟨identity, kind⟩ localName := by
  have hkey : s.key = ⟨identity, kind⟩ := (find?_eq_some hs).2
  refine ⟨s, hs, Or.inr ⟨hfile, ?_⟩⟩
  rw [importsOf_addImport, if_pos rfl, lookup_add, if_pos hkey.symm]

/-- The three cases of resolving on behalf of a file: nothing is registered under the key, its name is settled, or it
is a symbol of another file used for the first time. -/
theorem resolve_cases (table : SymbolTable) (file : String) (identity : Identity) (kind : SymbolKind) :
    table.find? ⟨identity, kind⟩ = none ∨
    (∃ name, NamedIn table file ⟨identity, kind⟩ name) ∨
    (∃ s, table.find? ⟨identity, kind⟩ = some s ∧ s.file ≠ file ∧
      (table.importsOf file).localNames.lookup ⟨identity, kind⟩ = none) := by
  rcases hs : table.find? ⟨identity, kind⟩ with _ | s
  · exact Or.inl rfl
  · right
    by_cases hfile : s.file = file
    · exact Or.inl ⟨s.name, s, hs, Or.inl ⟨hfile, rfl⟩⟩
    · rcases hname : (table.importsOf file).localNames.lookup ⟨identity, kind⟩ with _ | name
      · exact Or.inr ⟨s, rfl, hfile, hname⟩
      · exact Or.inl ⟨name, s, hs, Or.inr ⟨hfile, hname⟩⟩

/-- A name that resolving answers is settled from then on. -/
theorem namedIn_of_resolve (h : (Gen.resolve (.file file) identity kind).run table = (.ok name, table')) :
    NamedIn table' file ⟨identity, kind⟩ name := by
  rcases resolve_cases table file identity kind with hkey | ⟨settled, hsettled⟩ | ⟨s, hs, hfile, hnew⟩
  · rw [run_resolve_unknown hkey] at h
    cases h
  · rw [hsettled.resolve] at h
    cases h
    exact hsettled
  · rw [run_resolve_new hs hfile hnew] at h
    cases h
    exact namedIn_addImport hs hfile _

end ProtoClass.SymbolTable
