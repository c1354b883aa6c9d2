import ProtoClass.Module.Generator
import ProtoClass.Proofs.Schema.Catalog
import ProtoClass.Proofs.Symbol.Granting

/-!
# Reserving the names of a catalogue

Reserving the names of a coherent catalogue on an empty table succeeds and registers all enums, messages and classes
for the files that declare them (`run_reserve`).  The names are those granted for the list `Catalog.requests`
(`run_reserve_eq`).  Reserving them again changes nothing (`Registered.run_reserve`).
-/

namespace ProtoClass

open SymbolTable

variable {α : Type}

/-- The entry is registered for its file, under what is made of the name it is declared under. -/
def Catalog.IsReserved (catalog : Catalog) (kind : SymbolKind) (nameOf : String → String) (table : SymbolTable)
    (entry : Entry α) : Prop :=
  ∃ s name, table.find? ⟨entry.identity, kind⟩ = some s ∧ s.file = entry.file.name ∧
    catalog.name? entry.identity = some name ∧ s.requested = nameOf name

/-- The names to register for entries: what is made of those they are declared under. -/
def Catalog.requestsFor (catalog : Catalog) (kind : SymbolKind) (nameOf : String → String) (entries : List (Entry α)) :
    List NameRequest :=
  entries.map fun entry =>
    ⟨nameOf ((catalog.name? entry.identity).getD ""), entry.identity, entry.file.name, kind⟩

/-- All names to register, in order. -/
def Catalog.requests (catalog : Catalog) : List NameRequest :=
  catalog.requestsFor .enum id catalog.enums ++
    (catalog.requestsFor .message id catalog.messages ++
      catalog.requestsFor .constructorClass Naming.className catalog.messages)

/-- What registering names of one kind does to a table: all entries are registered afterwards, and nothing else is
different. -/
structure Reserved (catalog : Catalog) (kind : SymbolKind) (nameOf : String → String) (table table' : SymbolTable)
    (entries : List (Entry α)) : Prop where
  wellFormed : table'.WellFormed
  found : ∀ entry ∈ entries, catalog.IsReserved kind nameOf table' entry
  others : ∀ key : SymbolKey, (∀ entry ∈ entries, key ≠ ⟨entry.identity, kind⟩) → table'.find? key = table.find? key
  imports : ∀ file, table'.importsOf file = table.importsOf file
  granted : table' = table.grantAll (catalog.requestsFor kind nameOf entries)

namespace Catalog

variable {catalog : Catalog} {table table' : SymbolTable} {kind : SymbolKind} {nameOf : String → String}

theorem IsReserved.of_extends {entry : Entry α} (h : catalog.IsReserved kind nameOf table entry)
    (hext : Extends table table') : catalog.IsReserved kind nameOf table' entry := by
  obtain ⟨s, name, hs, hrest⟩ := h
  exact ⟨s, name, hext.find? _ _ hs, hrest⟩

theorem run_declaredName {identity : Identity} {name : String} (h : catalog.name? identity = some name) :
    (catalog.declaredName identity).run table = (.ok name, table) := by
  unfold declaredName
  rw [h]
  rfl

private theorem run_reserve_entry {entry : Entry α} {name given : String}
    (hname : catalog.name? entry.identity = some name)
    (hrun : (Gen.register (nameOf name) entry.identity entry.file.name kind).run table = (.ok given, table')) :
    (do let name ← catalog.declaredName entry.identity
        discard <| Gen.register (nameOf name) entry.identity entry.file.name kind : Gen Unit).run table =
      (.ok (), table') := by
  rw [Gen.run_bind_of_ok (run_declaredName hname)]
  show ((fun _ => ()) <$> Gen.register (nameOf name) entry.identity entry.file.name kind : Gen Unit).run table = _
  rw [Gen.run_map, hrun]
  rfl

/-- Registering names of one kind succeeds if none of them is registered yet. -/
theorem run_reserveAll {entries : List (Entry α)} (kind : SymbolKind) (nameOf : String → String)
    (hwell : table.WellFormed)
    (hnames : ∀ entry ∈ entries, ∃ name, catalog.name? entry.identity = some name)
    (hdistinct : entries.Pairwise fun a b => a.identity ≠ b.identity)
    (hnew : ∀ entry ∈ entries, table.find? ⟨entry.identity, kind⟩ = none) :
    ∃ table', (catalog.reserveAll kind nameOf entries).run table = (.ok (), table') ∧
      Reserved catalog kind nameOf table table' entries := by
  induction entries generalizing table with
  | nil => exact ⟨table, rfl, hwell, by simp, fun _ _ => rfl, fun _ => rfl, rfl⟩
  | cons entry rest ih =>
    obtain ⟨hfirst, hrest⟩ := List.pairwise_cons.1 hdistinct
    obtain ⟨name, hname⟩ := hnames entry List.mem_cons_self
    have hkey := hnew entry List.mem_cons_self
    let symbol := table.newSymbol (nameOf name) entry.identity entry.file.name kind
    have hstep : Step table (table.declare symbol) := step_newSymbol hkey
    have hothers : ∀ e ∈ rest, (⟨e.identity, kind⟩ : SymbolKey) ≠ symbol.key := by
      intro e he heq
      exact hfirst e he (congrArg SymbolKey.identity heq).symm
    obtain ⟨table', hrun, hreserved⟩ := ih (hstep.wellFormed hwell)
      (fun e he => hnames e (List.mem_cons_of_mem _ he)) hrest (fun e he => by
        rw [find?_declare_of_ne (hothers e he)]
        exact hnew e (List.mem_cons_of_mem _ he))
    refine ⟨table', ?_, hreserved.wellFormed, ?_, ?_, hreserved.imports, ?_⟩
    · show (_ >>= fun _ => catalog.reserveAll kind nameOf rest).run table = _
      rw [Gen.run_bind_of_ok (run_reserve_entry hname (run_register_new hkey))]
      exact hrun
    · intro e he
      rcases List.mem_cons.1 he with rfl | he
      · refine ⟨symbol, name, ?_, rfl, hname, rfl⟩
        show table'.find? symbol.key = _
        rw [hreserved.others _ (fun e' he' heq => hothers e' he' heq.symm)]
        exact find?_declare_self hkey
      · exact hreserved.found e he
    · intro key hkeys
      rw [hreserved.others key (fun e he => hkeys e (List.mem_cons_of_mem _ he))]
      exact find?_declare_of_ne (hkeys entry List.mem_cons_self)
    · rw [hreserved.granted]
      simp only [requestsFor, List.map_cons, hname]
      rfl

/-- All names of the catalogue are registered, each for the file of its entry. -/
structure Registered (catalog : Catalog) (table : SymbolTable) : Prop where
  enums : ∀ entry ∈ catalog.enums, catalog.IsReserved .enum id table entry
  messages : ∀ entry ∈ catalog.messages, catalog.IsReserved .message id table entry
  classes : ∀ entry ∈ catalog.messages, catalog.IsReserved .constructorClass Naming.className table entry

theorem Registered.of_extends (h : catalog.Registered table) (hext : Extends table table') :
    catalog.Registered table' where
  enums := fun entry hentry => (h.enums entry hentry).of_extends hext
  messages := fun entry hentry => (h.messages entry hentry).of_extends hext
  classes := fun entry hentry => (h.classes entry hentry).of_extends hext

/-- Names are registered in three turns: those of enums, of messages and of classes. -/
private theorem run_reserve_turns (h : catalog.Coherent) :
    ∃ table₁ table₂ table₃, catalog.reserve.run {} = (.ok (), table₃) ∧
      Reserved catalog .enum id {} table₁ catalog.enums ∧
      Reserved catalog .message id table₁ table₂ catalog.messages ∧
      Reserved catalog .constructorClass Naming.className table₂ table₃ catalog.messages := by
  obtain ⟨table₁, hrun₁, henums⟩ :=
    run_reserveAll .enum id wellFormed_empty h.enumNames h.enums (fun _ _ => rfl)
  obtain ⟨table₂, hrun₂, hmessages⟩ :=
    run_reserveAll .message id henums.wellFormed h.messageNames h.messages
      (fun entry _ => by
        rw [henums.others _ (by simp)]
        rfl)
  obtain ⟨table₃, hrun₃, hclasses⟩ :=
    run_reserveAll .constructorClass Naming.className hmessages.wellFormed h.messageNames
      h.messages (fun entry _ => by
        rw [hmessages.others _ (by simp), henums.others _ (by simp)]
        rfl)
  refine ⟨table₁, table₂, table₃, ?_, henums, hmessages, hclasses⟩
  unfold reserve
  rw [Gen.run_bind_of_ok hrun₁, Gen.run_bind_of_ok hrun₂]
  exact hrun₃

/-- Reserving names on an empty table succeeds; it registers all of them and imports nothing. -/
theorem run_reserve (h : catalog.Coherent) :
    ∃ table, catalog.reserve.run {} = (.ok (), table) ∧ table.WellFormed ∧ catalog.Registered table ∧
      ∀ file, table.importsOf file = {} := by
  obtain ⟨table₁, table₂, table₃, hrun, henums, hmessages, hclasses⟩ := run_reserve_turns h
  refine ⟨table₃, hrun, hclasses.wellFormed, ⟨?_, ?_, hclasses.found⟩, ?_⟩
  · intro entry hentry
    obtain ⟨s, name, hs, hrest⟩ := henums.found entry hentry
    refine ⟨s, name, ?_, hrest⟩
    rw [hclasses.others _ (by simp), hmessages.others _ (by simp), hs]
  · intro entry hentry
    obtain ⟨s, name, hs, hrest⟩ := hmessages.found entry hentry
    refine ⟨s, name, ?_, hrest⟩
    rw [hclasses.others _ (by simp), hs]
  · intro file
    rw [hclasses.imports, hmessages.imports, henums.imports]
    rfl

/-- The table after the names are reserved. -/
theorem run_reserve_eq (h : catalog.Coherent) :
    catalog.reserve.run {} = (.ok (), SymbolTable.grantAll {} catalog.requests) := by
  obtain ⟨table₁, table₂, table₃, hrun, henums, hmessages, hclasses⟩ := run_reserve_turns h
  rw [hrun, hclasses.granted, hmessages.granted, henums.granted, requests, grantAll, grantAll, grantAll, grantAll,
    List.foldl_append, List.foldl_append]

private theorem run_reserveAll_again {entries : List (Entry α)}
    (h : ∀ entry ∈ entries, catalog.IsReserved kind nameOf table entry) :
    (catalog.reserveAll kind nameOf entries).run table = (.ok (), table) := by
  induction entries with
  | nil => rfl
  | cons entry rest ih =>
    obtain ⟨s, name, hs, hfile, hname, hrequested⟩ := h entry List.mem_cons_self
    show (_ >>= fun _ => catalog.reserveAll kind nameOf rest).run table = _
    rw [Gen.run_bind_of_ok (run_reserve_entry hname (run_register_known hs hrequested hfile))]
    exact ih fun e he => h e (List.mem_cons_of_mem _ he)

/-- Reserving names that are registered changes nothing. -/
theorem Registered.run_reserve (h : catalog.Registered table) : catalog.reserve.run table = (.ok (), table) := by
  unfold reserve
  rw [Gen.run_bind_of_ok (run_reserveAll_again h.enums), Gen.run_bind_of_ok (run_reserveAll_again h.messages)]
  exact run_reserveAll_again h.classes

end Catalog

end ProtoClass
