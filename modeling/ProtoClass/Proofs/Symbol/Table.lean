import ProtoClass.Proofs.Naming.Fresh
import ProtoClass.Proofs.Symbol.ImportList

/-!
# What can happen to a symbol table

A table changes in two ways only: a symbol with a new key and a name free in its file is declared, or a file imports a
symbol of another file under a local name free in it (`SymbolTable.Step`).  Both keep the maps of a table in agreement
with each other (`SymbolTable.WellFormed`, `SymbolTable.Step.wellFormed`).
-/

namespace ProtoClass

/-! ### Maps -/

theorem lookup_cons_ite {κ β : Type} [DecidableEq κ] (key other : κ) (value : β) (entries : List (κ × β)) :
    ((key, value) :: entries).lookup other = if other = key then some value else entries.lookup other := by
  rw [List.lookup_cons]
  by_cases h : other = key
  · simp [h]
  · rw [beq_false_of_ne h, if_neg h]

theorem lookup_putValue {κ β : Type} [DecidableEq κ] (key other : κ) (value : β) (entries : List (κ × β)) :
    (putValue key value entries).lookup other = if other = key then some value else entries.lookup other := by
  induction entries with
  | nil => exact lookup_cons_ite key other value []
  | cons entry rest ih =>
    obtain ⟨first, old⟩ := entry
    unfold putValue
    by_cases hkey : key = first
    · subst hkey
      by_cases h : other = key <;> simp [lookup_cons_ite, h]
    · rw [if_neg hkey, lookup_cons_ite, lookup_cons_ite, ih]
      by_cases hfirst : other = first
      · simp [hfirst, Ne.symm hkey]
      · simp [hfirst]

theorem lookup_add {imports : FileImports} {symbol : Symbol} {localName : String} {key : SymbolKey} :
    (imports.add symbol localName).localNames.lookup key =
      if key = symbol.key then some localName else imports.localNames.lookup key :=
  lookup_cons_ite symbol.key key localName imports.localNames

namespace SymbolTable

variable {table : SymbolTable} {symbol : Symbol} {key : SymbolKey} {file localName : String}

@[simp] theorem symbols_declare : (table.declare symbol).symbols = table.symbols ++ [symbol] := rfl

@[simp] theorem importsOf_declare : (table.declare symbol).importsOf file = table.importsOf file := rfl

theorem declaredIn_declare :
    (table.declare symbol).declaredIn file =
      if file = symbol.file then symbol.name :: table.declaredIn file else table.declaredIn file := by
  simp only [declare, declaredIn, lookup_putValue]
  by_cases h : file = symbol.file <;> simp [h]

@[simp] theorem symbols_addImport : (table.addImport file symbol localName).symbols = table.symbols := rfl

@[simp] theorem declaredIn_addImport {other : String} :
    (table.addImport file symbol localName).declaredIn other = table.declaredIn other := rfl

@[simp] theorem find?_addImport : (table.addImport file symbol localName).find? key = table.find? key := rfl

theorem importsOf_addImport {other : String} :
    (table.addImport file symbol localName).importsOf other =
      if other = file then (table.importsOf file).add symbol localName else table.importsOf other := by
  simp only [addImport, importsOf, lookup_putValue]
  by_cases h : other = file <;> simp [h]

theorem find?_eq_some (h : table.find? key = some symbol) : symbol ∈ table.symbols ∧ symbol.key = key :=
  ⟨List.mem_of_find?_eq_some h, by simpa using List.find?_some h⟩

theorem find?_eq_none : table.find? key = none ↔ ∀ s ∈ table.symbols, s.key ≠ key := by
  simp [find?, List.find?_eq_none]

theorem find?_declare_self (hkey : table.find? symbol.key = none) :
    (table.declare symbol).find? symbol.key = some symbol := by
  show (table.symbols ++ [symbol]).find? _ = _
  rw [List.find?_append, show table.symbols.find? _ = none from hkey]
  simp

theorem find?_declare_of_ne (hkey : key ≠ symbol.key) : (table.declare symbol).find? key = table.find? key := by
  show (table.symbols ++ [symbol]).find? _ = _
  rw [List.find?_append, List.find?_cons_of_neg (by simpa using Ne.symm hkey)]
  simp [find?]

theorem lookup_eq_ok {identity : Identity} {kind : SymbolKind} :
    table.lookup identity kind = .ok symbol ↔ table.find? ⟨identity, kind⟩ = some symbol := by
  unfold lookup
  cases table.find? ⟨identity, kind⟩ <;> simp

/-! ### Agreement of the maps -/

/-- The imports of `file` agree with each other and with the symbols of the table. -/
structure ImportsAgree (symbols : List Symbol) (file : String) (imports : FileImports) : Prop where
  taken : ∀ name, name ∈ imports.taken ↔ ∃ key, imports.localNames.lookup key = some name
  foreign : ∀ key name, imports.localNames.lookup key = some name → ∃ s ∈ symbols, s.key = key ∧ s.file ≠ file
  distinct : ∀ key key' name,
    imports.localNames.lookup key = some name → imports.localNames.lookup key' = some name → key = key'
  holds : ∀ origin specifier, Holds imports.byOrigin origin specifier ↔
    ∃ s ∈ symbols, ∃ name, imports.localNames.lookup s.key = some name ∧ s.file = origin ∧
      specifier = importSpecifier s.name name
  inOrder : ImportsInOrder imports.byOrigin

/-- The maps of a table agree: one symbol for a key, one symbol for a name in a file, the declared names those of the
symbols, and the imports of every file those of the local names given out in it. -/
structure WellFormed (table : SymbolTable) : Prop where
  keys : ∀ s ∈ table.symbols, ∀ s' ∈ table.symbols, s.key = s'.key → s = s'
  names : ∀ s ∈ table.symbols, ∀ s' ∈ table.symbols, s.file = s'.file → s.name = s'.name → s = s'
  declared : ∀ file name, name ∈ table.declaredIn file ↔ ∃ s ∈ table.symbols, s.file = file ∧ s.name = name
  imports : ∀ file, ImportsAgree table.symbols file (table.importsOf file)

theorem wellFormed_empty : ({} : SymbolTable).WellFormed where
  keys := by simp
  names := by simp
  declared := by simp [declaredIn]
  imports := fun _ => ⟨by simp [importsOf], by simp [importsOf], by simp [importsOf],
    by simp [importsOf, Holds], importsInOrder_nil⟩

/-- In a table whose maps agree, every symbol is found under its key. -/
theorem WellFormed.find?_eq_some_iff (h : table.WellFormed) :
    table.find? key = some symbol ↔ symbol ∈ table.symbols ∧ symbol.key = key := by
  refine ⟨find?_eq_some, ?_⟩
  rintro ⟨hmem, rfl⟩
  rcases hfind : table.find? symbol.key with _ | found
  · exact absurd rfl (find?_eq_none.1 hfind symbol hmem)
  · obtain ⟨hfound, hkey⟩ := find?_eq_some hfind
    rw [h.keys found hfound symbol hmem hkey]

/-! ### Steps -/

/-- One change of a table. -/
inductive Step : SymbolTable → SymbolTable → Prop
  | declare {table : SymbolTable} {symbol : Symbol} (hkey : table.find? symbol.key = none)
      (hname : symbol.name ∉ table.declaredIn symbol.file) : Step table (table.declare symbol)
  | addImport {table : SymbolTable} {file : String} {symbol : Symbol} {localName : String}
      (hsymbol : table.find? symbol.key = some symbol) (hfile : symbol.file ≠ file)
      (hnew : (table.importsOf file).localNames.lookup symbol.key = none)
      (hdeclared : localName ∉ table.declaredIn file) (htaken : localName ∉ (table.importsOf file).taken) :
      Step table (table.addImport file symbol localName)

private theorem ImportsAgree.declare {symbols : List Symbol} {imports : FileImports}
    (h : ImportsAgree symbols file imports) (hkey : ∀ s ∈ symbols, s.key ≠ symbol.key) :
    ImportsAgree (symbols ++ [symbol]) file imports where
  taken := h.taken
  foreign := by
    intro key name hname
    obtain ⟨s, hs, hfound⟩ := h.foreign key name hname
    exact ⟨s, List.mem_append_left _ hs, hfound⟩
  distinct := h.distinct
  holds := by
    intro origin specifier
    rw [h.holds]
    constructor
    · rintro ⟨s, hs, hname⟩
      exact ⟨s, List.mem_append_left _ hs, hname⟩
    · rintro ⟨s, hs, name, hname, hrest⟩
      -- a symbol that is new has no local name anywhere
      have hold : s ∈ symbols := by
        rcases List.mem_append.1 hs with hs | hs
        · exact hs
        · rw [List.mem_singleton.1 hs] at hname
          obtain ⟨s', hs', heq, _⟩ := h.foreign _ _ hname
          exact absurd heq (hkey s' hs')
      exact ⟨s, hold, name, hname, hrest⟩
  inOrder := h.inOrder

private theorem ImportsAgree.add {symbols : List Symbol} {imports : FileImports}
    (h : ImportsAgree symbols file imports) (hkeys : ∀ s ∈ symbols, ∀ s' ∈ symbols, s.key = s'.key → s = s')
    (hsymbol : symbol ∈ symbols) (hfile : symbol.file ≠ file)
    (hnew : imports.localNames.lookup symbol.key = none) (htaken : localName ∉ imports.taken) :
    ImportsAgree symbols file (imports.add symbol localName) where
  taken := by
    intro name
    show name ∈ localName :: imports.taken ↔ _
    rw [List.mem_cons, h.taken]
    constructor
    · rintro (rfl | ⟨key, hkey⟩)
      · exact ⟨symbol.key, by rw [lookup_add, if_pos rfl]⟩
      · refine ⟨key, ?_⟩
        have hne : key ≠ symbol.key := by
          rintro rfl
          simp [hnew] at hkey
        rw [lookup_add, if_neg hne, hkey]
    · rintro ⟨key, hkey⟩
      rw [lookup_add] at hkey
      split at hkey
      · exact Or.inl (Option.some.inj hkey).symm
      · exact Or.inr ⟨key, hkey⟩
  foreign := by
    intro key name hname
    rw [lookup_add] at hname
    split at hname
    · rename_i heq
      exact ⟨symbol, hsymbol, heq.symm, hfile⟩
    · exact h.foreign key name hname
  distinct := by
    intro key key' name hname hname'
    -- a local name given out before is taken, so it is not the new one
    have hold : ∀ k, imports.localNames.lookup k = some name → name ≠ localName := by
      rintro k hk rfl
      exact htaken ((h.taken name).2 ⟨k, hk⟩)
    rw [lookup_add] at hname hname'
    split at hname <;> split at hname'
    · simp_all
    · exact absurd (Option.some.inj hname).symm (hold key' hname')
    · exact absurd (Option.some.inj hname').symm (hold key hname)
    · exact h.distinct key key' name hname hname'
  holds := by
    intro origin specifier
    show Holds (addSpecifier _ _ imports.byOrigin) origin specifier ↔ _
    rw [holds_addSpecifier, h.holds]
    constructor
    · rintro (⟨rfl, rfl⟩ | ⟨s, hs, name, hname, hrest⟩)
      · exact ⟨symbol, hsymbol, localName, by rw [lookup_add, if_pos rfl], rfl, rfl⟩
      · have hne : s.key ≠ symbol.key := by
          intro heq
          rw [heq, hnew] at hname
          cases hname
        exact ⟨s, hs, name, by rw [lookup_add, if_neg hne, hname], hrest⟩
    · rintro ⟨s, hs, name, hname, horigin, hspecifier⟩
      rw [lookup_add] at hname
      split at hname
      · rename_i heq
        obtain rfl := hkeys s hs symbol hsymbol heq
        obtain rfl := Option.some.inj hname
        exact Or.inl ⟨horigin.symm, hspecifier⟩
      · exact Or.inr ⟨s, hs, name, hname, horigin, hspecifier⟩
  inOrder := h.inOrder.addSpecifier _ _

private theorem WellFormed.declare (h : table.WellFormed) (hkey : table.find? symbol.key = none)
    (hname : symbol.name ∉ table.declaredIn symbol.file) : (table.declare symbol).WellFormed where
  keys := by
    intro s hs s' hs' heq
    simp only [symbols_declare, List.mem_append, List.mem_singleton] at hs hs'
    rw [find?_eq_none] at hkey
    rcases hs with hs | rfl <;> rcases hs' with hs' | rfl
    · exact h.keys s hs s' hs' heq
    · exact absurd heq (hkey s hs)
    · exact absurd heq.symm (hkey s' hs')
    · rfl
  names := by
    intro s hs s' hs' hfile heq
    simp only [symbols_declare, List.mem_append, List.mem_singleton] at hs hs'
    rcases hs with hs | rfl <;> rcases hs' with hs' | rfl
    · exact h.names s hs s' hs' hfile heq
    · exact absurd ((h.declared _ _).2 ⟨s, hs, hfile, heq⟩) hname
    · exact absurd ((h.declared _ _).2 ⟨s', hs', hfile.symm, heq.symm⟩) hname
    · rfl
  declared := by
    intro file name
    have hold := h.declared file name
    simp only [symbols_declare, List.mem_append, List.mem_singleton, or_and_right, exists_or, exists_eq_left]
    rw [← hold, declaredIn_declare]
    by_cases hfile : file = symbol.file
    · simp only [hfile, if_true, List.mem_cons, true_and]
      rw [or_comm, eq_comm (a := name)]
    · simp [hfile, Ne.symm hfile]
  imports := fun file => (h.imports file).declare (find?_eq_none.1 hkey)

/-- A change of a table keeps its maps in agreement. -/
theorem Step.wellFormed {table table' : SymbolTable} (hstep : Step table table') (h : table.WellFormed) :
    table'.WellFormed := by
  cases hstep with
  | declare hkey hname => exact h.declare hkey hname
  | @addImport file symbol localName hsymbol hfile hnew _ htaken =>
    refine ⟨h.keys, h.names, h.declared, fun other => ?_⟩
    rw [importsOf_addImport]
    split
    · rename_i heq
      subst heq
      exact (h.imports other).add h.keys (find?_eq_some hsymbol).1 hfile hnew htaken
    · exact h.imports other

end SymbolTable

end ProtoClass
