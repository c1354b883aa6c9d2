import Mathlib.Data.List.Forall2
import ProtoClass.Proofs.Symbol.Operations

/-!
# Steps that refer to symbols

Most generation steps do nothing to the symbol table but resolve some keys where they stand, and what they make holds
the names that the keys have there.  `Gen.Refers` says this of a step, together with the exact condition under which
it succeeds; the rules below follow the way steps are put together.

* Resolving keys declares nothing, imports nothing but those keys, and only into the file where the reference stands
  (`SymbolTable.Referenced`).
* A name is settled once it is given, so what a step made from earlier names stays right (`Respects.of_extends`).
-/

namespace ProtoClass

/-- The faults that come from the schema: a name that is not declared, a type that code cannot hold, or a oneof that
is not declared. -/
def GenError.IsSchemaFault (e : GenError) : Prop :=
  (∃ name, e = .unknownType name) ∨ (∃ message field kind, e = .unsupportedKind message field kind) ∨
    ∃ message field oneof, e = .missingOneof message field oneof

namespace SymbolTable

variable {table table' table'' : SymbolTable} {scope : Scope} {key : SymbolKey} {keys keys' : List SymbolKey}
  {name : String}

/-- The name of a symbol where a reference stands is settled. -/
def Settled (table : SymbolTable) (scope : Scope) (key : SymbolKey) (name : String) : Prop :=
  match scope with
  | .table => ∃ s, table.find? key = some s ∧ s.name = name
  | .file file => NamedIn table file key name

theorem Settled.mono (h : Settled table scope key name) (hext : Extends table table') :
    Settled table' scope key name := by
  cases scope with
  | table =>
    obtain ⟨s, hs, hname⟩ := h
    exact ⟨s, hext.find? key s hs, hname⟩
  | file file => exact NamedIn.mono h hext

/-- `names` gives every key the name that is settled for it. -/
def Respects (table : SymbolTable) (scope : Scope) (names : SymbolKey → String) : Prop :=
  ∀ key name, Settled table scope key name → names key = name

theorem Respects.of_extends {names : SymbolKey → String} (h : table'.Respects scope names)
    (hext : Extends table table') : table.Respects scope names :=
  fun key name hsettled => h key name (hsettled.mono hext)

/-- Every file has names for its symbols that respect what is settled. -/
theorem exists_respects (table : SymbolTable) (file : String) : ∃ names, table.Respects (.file file) names := by
  classical
  refine ⟨fun key => if h : ∃ name, NamedIn table file key name then h.choose else "", fun key name hname => ?_⟩
  have hex : ∃ name, NamedIn table file key name := ⟨name, hname⟩
  simp only [hex, dif_pos]
  exact hex.choose_spec.unique hname

/-- No local name of a file is one that it declares. -/
def LocalsFree (table : SymbolTable) (file : String) : Prop :=
  ∀ key name, (table.importsOf file).localNames.lookup key = some name → name ∉ table.declaredIn file

/-- What references to `keys` do to a table. -/
structure Referenced (scope : Scope) (keys : List SymbolKey) (table table' : SymbolTable) : Prop where
  grows : Extends table table'
  wellFormed : table.WellFormed → table'.WellFormed
  symbols : table'.symbols = table.symbols
  elsewhere : ∀ file, scope ≠ .file file → table'.importsOf file = table.importsOf file
  only : ∀ file key name, (table'.importsOf file).localNames.lookup key = some name →
    (table.importsOf file).localNames.lookup key = some name ∨ key ∈ keys
  settled : ∀ key ∈ keys, ∃ name, Settled table' scope key name
  localsFree : ∀ file, LocalsFree table file → LocalsFree table' file

theorem Referenced.refl (scope : Scope) (table : SymbolTable) : Referenced scope [] table table where
  grows := Extends.refl table
  wellFormed := id
  symbols := rfl
  elsewhere := fun _ _ => rfl
  only := fun _ _ _ h => Or.inl h
  settled := by simp
  localsFree := fun _ h => h

theorem Referenced.trans (h : Referenced scope keys table table') (h' : Referenced scope keys' table' table'') :
    Referenced scope (keys ++ keys') table table'' where
  grows := h.grows.trans h'.grows
  wellFormed := fun hwell => h'.wellFormed (h.wellFormed hwell)
  symbols := h'.symbols.trans h.symbols
  elsewhere := fun file hscope => (h'.elsewhere file hscope).trans (h.elsewhere file hscope)
  only := by
    intro file key name hname
    rcases h'.only file key name hname with hname | hmem
    · rcases h.only file key name hname with hname | hmem
      · exact Or.inl hname
      · exact Or.inr (List.mem_append_left _ hmem)
    · exact Or.inr (List.mem_append_right _ hmem)
  settled := by
    intro key hmem
    rcases List.mem_append.1 hmem with hmem | hmem
    · obtain ⟨name, hname⟩ := h.settled key hmem
      exact ⟨name, hname.mono h'.grows⟩
    · exact h'.settled key hmem
  localsFree := fun file hfree => h'.localsFree file (h.localsFree file hfree)

theorem Referenced.congr (h : Referenced scope keys table table') (hkeys : ∀ key, key ∈ keys ↔ key ∈ keys') :
    Referenced scope keys' table table' where
  grows := h.grows
  wellFormed := h.wellFormed
  symbols := h.symbols
  elsewhere := h.elsewhere
  only := fun file key name hname => (h.only file key name hname).imp_right (hkeys key).1
  settled := fun key hmem => h.settled key ((hkeys key).2 hmem)
  localsFree := h.localsFree

private theorem referenced_of_settled (h : Settled table scope key name) : Referenced scope [key] table table where
  grows := Extends.refl table
  wellFormed := id
  symbols := rfl
  elsewhere := fun _ _ => rfl
  only := fun _ _ _ hname => Or.inl hname
  settled := by simpa using ⟨name, h⟩
  localsFree := fun _ hfree => hfree

private theorem referenced_addImport {file : String} {s : Symbol} (hs : table.find? key = some s)
    (hfile : s.file ≠ file) (hnew : (table.importsOf file).localNames.lookup key = none) :
    Referenced (.file file) [key] table (table.addImport file s (table.newLocalName file s)) where
  grows := (step_newLocalName hs hfile hnew).extends
  wellFormed := (step_newLocalName hs hfile hnew).wellFormed
  symbols := rfl
  elsewhere := by
    intro other hother
    rw [importsOf_addImport, if_neg]
    rintro rfl
    exact hother rfl
  only := by
    intro other k local' hlocal
    rcases localName_of_addImport hlocal with hold | ⟨_, hk, _⟩
    · exact Or.inl hold
    · exact Or.inr (List.mem_singleton.2 (hk.trans (find?_eq_some hs).2))
  settled := by simpa using ⟨_, namedIn_addImport hs hfile _⟩
  localsFree := by
    intro other hfree k local' hlocal
    rcases localName_of_addImport hlocal with hold | ⟨rfl, _, rfl⟩
    · exact hfree k local' hold
    · exact (table.newLocalName_free other s).1

/-- Resolving a registered key succeeds and settles its name. -/
theorem resolve_of_known {s : Symbol} (scope : Scope) (hkey : table.find? key = some s) :
    ∃ name table', (Gen.resolve scope key.identity key.kind).run table = (.ok name, table') ∧
      Referenced scope [key] table table' ∧ Settled table' scope key name := by
  cases scope with
  | table =>
    have hsettled : Settled table .table key s.name := ⟨s, hkey, rfl⟩
    refine ⟨s.name, table, ?_, referenced_of_settled hsettled, hsettled⟩
    rw [Gen.run_resolve_table, lookup_eq_ok.2 hkey]
    rfl
  | file file =>
    rcases resolve_cases table file key.identity key.kind with hnone | ⟨name, hname⟩ | ⟨s', hs', hfile, hnew⟩
    · rw [hkey] at hnone
      cases hnone
    · have hsettled : Settled table (.file file) key name := hname
      exact ⟨name, table, hname.resolve, referenced_of_settled hsettled, hsettled⟩
    · exact ⟨_, _, run_resolve_new hs' hfile hnew, referenced_addImport hs' hfile hnew,
        namedIn_addImport hs' hfile _⟩

end SymbolTable

namespace Gen

open SymbolTable

variable {α β : Type} {scope : Scope} {accepts accepts' : Prop} {keys keys' : List SymbolKey}

/-- How a step ends that refers to `keys`: it succeeds exactly if `accepts` holds, and what it makes is as `shows` says
under the names settled in the end. -/
inductive Outcome (scope : Scope) (step : Gen α) (accepts : Prop) (keys : List SymbolKey)
    (shows : (SymbolKey → String) → α → Prop) (table : SymbolTable) : Prop
  | ok {a : α} {table' : SymbolTable} (haccepts : accepts) (hrun : step.run table = (.ok a, table'))
      (href : Referenced scope keys table table')
      (hshows : ∀ names, table'.Respects scope names → shows names a)
  | fault {e : GenError} {table' : SymbolTable} (hrejects : ¬ accepts) (hrun : step.run table = (.error e, table'))
      (hfault : e.IsSchemaFault) (hext : Extends table table')

/-- Where its keys are registered, a step does nothing to the table but refer to them. -/
def Refers (scope : Scope) (step : Gen α) (accepts : Prop) (keys : List SymbolKey)
    (shows : (SymbolKey → String) → α → Prop) : Prop :=
  ∀ table : SymbolTable, (∀ key ∈ keys, ∃ s, table.find? key = some s) → Outcome scope step accepts keys shows table

theorem Refers.pure (scope : Scope) (a : α) : Refers scope (pure a : Gen α) True [] fun _ result => result = a :=
  fun table _ => .ok trivial (run_pure a table) (Referenced.refl scope table) fun _ _ => rfl

theorem Refers.throw {shows : (SymbolKey → String) → α → Prop} {e : GenError} (hrejects : ¬ accepts)
    (hfault : e.IsSchemaFault) : Refers scope (throw e : Gen α) accepts keys shows :=
  fun table _ => .fault hrejects (run_throw e table) hfault (Extends.refl table)

theorem Refers.resolve (scope : Scope) (key : SymbolKey) :
    Refers scope (Gen.resolve scope key.identity key.kind) True [key] fun names name => name = names key := by
  intro table hknown
  obtain ⟨s, hs⟩ := hknown key (List.mem_singleton.2 rfl)
  obtain ⟨name, table', hrun, href, hsettled⟩ := resolve_of_known scope hs
  exact .ok trivial hrun href fun names hnames => (hnames key name hsettled).symm

/-- A step of two parts refers to the keys of both and succeeds if both do. -/
theorem Refers.bind {step : Gen α} {next : α → Gen β} {shows : (SymbolKey → String) → α → Prop}
    {shows' : α → (SymbolKey → String) → β → Prop} (h : Refers scope step accepts keys shows)
    (h' : ∀ a, Refers scope (next a) accepts' keys' (shows' a)) :
    Refers scope (step >>= next) (accepts ∧ accepts') (keys ++ keys')
      fun names b => ∃ a, shows names a ∧ shows' a names b := by
  intro table hknown
  rcases h table fun key hkey => hknown key (List.mem_append_left _ hkey) with
    ⟨haccepts, hrun, href, hshows⟩ | ⟨hrejects, hrun, hfault, hext⟩
  · rename_i a middle
    have hknown' : ∀ key ∈ keys', ∃ s, middle.find? key = some s := by
      intro key hkey
      obtain ⟨s, hs⟩ := hknown key (List.mem_append_right _ hkey)
      exact ⟨s, href.grows.find? key s hs⟩
    rcases h' a middle hknown' with ⟨haccepts', hrun', href', hshows'⟩ | ⟨hrejects', hrun', hfault', hext'⟩
    · refine .ok ⟨haccepts, haccepts'⟩ ((run_bind_of_ok hrun).trans hrun') (href.trans href') fun names hnames => ?_
      exact ⟨a, hshows names (hnames.of_extends href'.grows), hshows' names hnames⟩
    · exact .fault (fun hboth => hrejects' hboth.2) ((run_bind_of_ok hrun).trans hrun') hfault'
        (href.grows.trans hext')
  · exact .fault (fun hboth => hrejects hboth.1) (run_bind_of_error hrun) hfault hext

/-- A weaker description of what a step makes, with the condition and the keys said in another way. -/
theorem Refers.imp {step : Gen α} {shows shows' : (SymbolKey → String) → α → Prop}
    (h : Refers scope step accepts keys shows) (haccepts : accepts ↔ accepts')
    (hkeys : ∀ key, key ∈ keys ↔ key ∈ keys') (hshows : ∀ names a, shows names a → shows' names a) :
    Refers scope step accepts' keys' shows' := by
  intro table hknown
  rcases h table fun key hkey => hknown key ((hkeys key).1 hkey) with
    ⟨hyes, hrun, href, hmakes⟩ | ⟨hno, hrun, hfault, hext⟩
  · exact .ok (haccepts.1 hyes) hrun (href.congr hkeys) fun names hnames => hshows names _ (hmakes names hnames)
  · exact .fault (fun hyes => hno (haccepts.2 hyes)) hrun hfault hext

/-- A step that only makes something else of what another one made. -/
theorem Refers.returning {step : Gen α} {shows : (SymbolKey → String) → α → Prop}
    {shows' : (SymbolKey → String) → β → Prop} {f : α → β} (h : Refers scope step accepts keys shows)
    (hshows : ∀ names a, shows names a → shows' names (f a)) :
    Refers scope (step >>= fun a => Pure.pure (f a)) accepts keys shows' := by
  refine (h.bind fun a => Refers.pure scope (f a)).imp (by simp) (by simp) ?_
  rintro names _ ⟨a, ha, rfl⟩
  exact hshows names a ha

/-- A step for every element of a list refers to the keys of all of them, in order. -/
theorem Refers.mapM {step : α → Gen β} {accepts : α → Prop} {keys : α → List SymbolKey}
    {shows : (SymbolKey → String) → α → β → Prop} (l : List α)
    (h : ∀ a ∈ l, Refers scope (step a) (accepts a) (keys a) fun names => shows names a) :
    Refers scope (l.mapM step) (∀ a ∈ l, accepts a) (l.flatMap keys)
      fun names bs => List.Forall₂ (shows names) l bs := by
  induction l with
  | nil =>
    refine (Refers.pure scope []).imp (by simp) (by simp) ?_
    rintro names _ rfl
    exact List.Forall₂.nil
  | cons a rest ih =>
    have hrest := ih fun a' ha' => h a' (List.mem_cons_of_mem _ ha')
    rw [List.mapM_cons]
    refine ((h a List.mem_cons_self).bind fun b => hrest.bind fun bs => Refers.pure scope (b :: bs)).imp
      (by simp) (by simp) ?_
    rintro names _ ⟨b, hb, bs, hbs, rfl⟩
    exact List.Forall₂.cons hb hbs

/-! ### Invariants of the table -/

/-- A step keeps a property of the table, whether it succeeds or not. -/
def Keeps (inv : SymbolTable → Prop) (step : Gen α) : Prop :=
  ∀ table, inv table → inv (step.run table).2

theorem Keeps.pure {inv : SymbolTable → Prop} (a : α) : Keeps inv (pure a : Gen α) :=
  fun _ htable => htable

theorem Keeps.get {inv : SymbolTable → Prop} : Keeps inv (get : Gen SymbolTable) :=
  fun _ htable => htable

theorem Keeps.bind {inv : SymbolTable → Prop} {step : Gen α} {next : α → Gen β} (h : Keeps inv step)
    (h' : ∀ a, Keeps inv (next a)) : Keeps inv (step >>= next) := by
  intro table htable
  have hmiddle := h table htable
  rw [run_bind]
  rcases hrun : step.run table with ⟨_ | a, middle⟩ <;> rw [hrun] at hmiddle
  · exact hmiddle
  · exact h' a middle hmiddle

theorem Keeps.mapM {inv : SymbolTable → Prop} {step : α → Gen β} {l : List α} (h : ∀ a ∈ l, Keeps inv (step a)) :
    Keeps inv (l.mapM step) := by
  induction l with
  | nil => exact Keeps.pure []
  | cons a rest ih =>
    rw [List.mapM_cons]
    exact (h a List.mem_cons_self).bind fun _ =>
      (ih fun a' ha' => h a' (List.mem_cons_of_mem _ ha')).bind fun _ => Keeps.pure _

/-- A step that only refers to symbols keeps what larger tables inherit. -/
theorem Refers.keeps {inv : SymbolTable → Prop} {step : Gen α} {shows : (SymbolKey → String) → α → Prop}
    (h : Refers scope step accepts keys shows)
    (hknown : ∀ table, inv table → ∀ key ∈ keys, ∃ s, table.find? key = some s)
    (hinv : ∀ table table', inv table → Extends table table' → inv table') : Keeps inv step := by
  intro table htable
  rcases h table (hknown table htable) with ⟨_, hrun, href, _⟩ | ⟨_, hrun, _, hext⟩ <;> rw [hrun]
  · exact hinv _ _ htable href.grows
  · exact hinv _ _ htable hext

end Gen

end ProtoClass
