import ProtoClass.Proofs.Symbol.Alike
import ProtoClass.Proofs.Symbol.References

/-!
# Names in a file and names in the table

A reference that stands in a file is written under the name that the file has for the symbol, and one that stands
nowhere in particular under the declared name.

* Resolving runs alike in both places (`resolve_alike`), and resolving in the file gives what resolving outside would
  give if all symbols were declared under the names that the file has for them (`seenFrom`, `resolve_alike_seenFrom`).
* What resolving in a file gives depends on what the table looks like from the file
  (`resolve_alike_of_looksAlike`).
-/

namespace ProtoClass.SymbolTable

variable {base table table' last : SymbolTable} {file : String}

/-- Two tables with the symbols of a third one. -/
structure SameSymbols (base table table' : SymbolTable) : Prop where
  left : ∀ key, table.find? key = base.find? key
  right : ∀ key, table'.find? key = base.find? key

/-- One name is that of a declared symbol, and the other is the name of the symbol in a file: the same one in the file
that declares the symbol, the local one where it is imported. -/
def NamedAlike (table : SymbolTable) (file : String) (name name' : String) : Prop :=
  ∃ key s, table.find? key = some s ∧ s.name = name ∧ NamedIn table file key name'

theorem Referenced.find?_eq {scope : Scope} {keys : List SymbolKey} (h : Referenced scope keys table table')
    (key : SymbolKey) : table'.find? key = table.find? key := by
  unfold find?
  rw [h.symbols]

theorem run_resolve_of_find? {scope : Scope} {identity : Identity} {kind : SymbolKind}
    (hkey : table.find? ⟨identity, kind⟩ = none) :
    (Gen.resolve scope identity kind).run table = (.error (.unknownType (symbolLabel identity kind)), table) := by
  cases scope with
  | table => simp [Gen.run_resolve_table, lookup, hkey, Except.map]
  | file file => exact run_resolve_unknown hkey

/-- Resolving outside of all files and resolving in a file run alike. -/
theorem resolve_alike (base last : SymbolTable) (file : String) (identity : Identity) (kind : SymbolKind) :
    Gen.Alike (SameSymbols base) last (last.NamedAlike file) (Gen.resolve .table identity kind)
      (Gen.resolve (.file file) identity kind) := by
  intro table table' hsame
  rcases hkey : base.find? ⟨identity, kind⟩ with _ | s
  · exact .fault (run_resolve_of_find? ((hsame.left _).trans hkey)) (run_resolve_of_find? ((hsame.right _).trans hkey))
  · have hs : table.find? ⟨identity, kind⟩ = some s := (hsame.left _).trans hkey
    have hs' : table'.find? ⟨identity, kind⟩ = some s := (hsame.right _).trans hkey
    obtain ⟨name, later, hrun, href, hname⟩ := resolve_of_known (.file file) hs'
    have htable : (Gen.resolve .table identity kind).run table = (.ok s.name, table) := by
      rw [Gen.run_resolve_table, lookup_eq_ok.2 hs]
      rfl
    refine .ok htable hrun ⟨hsame.left, fun key => (href.find?_eq key).trans (hsame.right key)⟩ href.grows ?_
    intro hlast
    exact ⟨⟨identity, kind⟩, s, hlast.find? _ _ (href.grows.find? _ _ hs'), rfl, NamedIn.mono hname hlast⟩

/-- In the file that declares a symbol it has its declared name. -/
theorem resolve_alike_of_own {identity : Identity} {kind : SymbolKind} {s : Symbol}
    (hkey : base.find? ⟨identity, kind⟩ = some s) (hfile : s.file = file) :
    Gen.Alike (SameSymbols base) last (· = ·) (Gen.resolve .table identity kind)
      (Gen.resolve (.file file) identity kind) := by
  intro table table' hsame
  have htable : (Gen.resolve .table identity kind).run table = (.ok s.name, table) := by
    rw [Gen.run_resolve_table, lookup_eq_ok.2 ((hsame.left _).trans hkey)]
    rfl
  have hname : NamedIn table' file ⟨identity, kind⟩ s.name := ⟨s, (hsame.right _).trans hkey, Or.inl ⟨hfile, rfl⟩⟩
  exact .ok htable hname.resolve hsame (Extends.refl table') fun _ => rfl

theorem resolve_silent {identity : Identity} {kind : SymbolKind} {s : Symbol}
    (hkey : base.find? ⟨identity, kind⟩ = some s) (scope : Scope) :
    Gen.Alike.Silent (SameSymbols base) last (Gen.resolve scope identity kind) := by
  intro table table' hsame
  obtain ⟨name, later, hrun, href, _⟩ := resolve_of_known scope ((hsame.right _).trans hkey)
  exact .ok (Gen.run_pure () table) hrun ⟨hsame.left, fun key => (href.find?_eq key).trans (hsame.right key)⟩
    href.grows fun _ => trivial

/-! ### A table as a file sees it -/

/-- The name that a file has for a symbol. -/
def nameIn (table : SymbolTable) (file : String) (symbol : Symbol) : String :=
  if symbol.file = file then symbol.name
  else ((table.importsOf file).localNames.lookup symbol.key).getD symbol.name

/-- The table with every symbol under the name that a file has for it. -/
def seenFrom (table : SymbolTable) (file : String) : SymbolTable :=
  { table with symbols := table.symbols.map fun symbol => { symbol with name := table.nameIn file symbol } }

theorem find?_seenFrom (table : SymbolTable) (file : String) (key : SymbolKey) :
    (table.seenFrom file).find? key =
      (table.find? key).map fun symbol => { symbol with name := table.nameIn file symbol } := by
  unfold find? seenFrom
  rw [List.find?_map]
  rfl

theorem NamedIn.nameIn_eq {key : SymbolKey} {name : String} {s : Symbol} (h : NamedIn table file key name)
    (hs : table.find? key = some s) : table.nameIn file s = name := by
  obtain ⟨s', hs', hcase⟩ := h
  obtain rfl : s = s' := Option.some.inj (hs.symm.trans hs')
  unfold nameIn
  rcases hcase with ⟨hfile, hname⟩ | ⟨hfile, hname⟩
  · rw [if_pos hfile, hname]
  · rw [if_neg hfile, (find?_eq_some hs).2, hname]
    rfl

/-- What resolving in a file gives is what resolving gives in the table as the file sees it in the end. -/
theorem resolve_alike_seenFrom (hlast : ∀ key, last.find? key = base.find? key) (file : String) (identity : Identity)
    (kind : SymbolKind) :
    Gen.Alike (fun table table' => table = last.seenFrom file ∧ ∀ key, table'.find? key = base.find? key) last (· = ·)
      (Gen.resolve .table identity kind) (Gen.resolve (.file file) identity kind) := by
  rintro _ table' ⟨rfl, hsame⟩
  have hseen := last.find?_seenFrom file ⟨identity, kind⟩
  rw [hlast] at hseen
  rcases hkey : base.find? ⟨identity, kind⟩ with _ | s <;> rw [hkey] at hseen
  · exact .fault (run_resolve_of_find? hseen) (run_resolve_of_find? ((hsame _).trans hkey))
  · obtain ⟨name, later, hrun, href, hname⟩ := resolve_of_known (.file file) ((hsame _).trans hkey)
    have htable : (Gen.resolve .table identity kind).run (last.seenFrom file) =
        (.ok (last.nameIn file s), last.seenFrom file) := by
      rw [Gen.run_resolve_table, lookup_eq_ok.2 hseen]
      rfl
    refine .ok htable hrun ⟨rfl, fun key => (href.find?_eq key).trans (hsame key)⟩ href.grows fun hext => ?_
    exact NamedIn.nameIn_eq (NamedIn.mono hname hext) ((hlast _).trans hkey)

/-! ### One file in two tables -/

/-- Two tables look the same from a file. -/
structure LooksAlike (file : String) (table table' : SymbolTable) : Prop where
  find? : ∀ key, table'.find? key = table.find? key
  declared : table'.declaredIn file = table.declaredIn file
  imports : table'.importsOf file = table.importsOf file

theorem LooksAlike.refl (file : String) (table : SymbolTable) : LooksAlike file table table :=
  ⟨fun _ => rfl, rfl, rfl⟩

/-- A table that looks like another one from every file but one. -/
structure SameElsewhere (file : String) (base table : SymbolTable) : Prop where
  find? : ∀ key, table.find? key = base.find? key
  declared : ∀ other, table.declaredIn other = base.declaredIn other
  imports : ∀ other, other ≠ file → table.importsOf other = base.importsOf other

theorem SameElsewhere.refl (file : String) (table : SymbolTable) : SameElsewhere file table table :=
  ⟨fun _ => rfl, fun _ => rfl, fun _ _ => rfl⟩

theorem SameElsewhere.addImport {s : Symbol} {localName : String} (h : SameElsewhere file base table) :
    SameElsewhere file base (table.addImport file s localName) := by
  refine ⟨h.find?, h.declared, fun other hother => ?_⟩
  rw [importsOf_addImport, if_neg hother]
  exact h.imports other hother

/-- What happens to the imports of one file cannot be seen from another one. -/
theorem LooksAlike.of_sameElsewhere {other : String} {later : SymbolTable} (h : LooksAlike other table table')
    (hlater : SameElsewhere file table later) (hother : other ≠ file) : LooksAlike other later table' where
  find? key := (h.find? key).trans (hlater.find? key).symm
  declared := h.declared.trans (hlater.declared other).symm
  imports := h.imports.trans (hlater.imports other hother).symm

theorem LooksAlike.addImport {s : Symbol} (h : LooksAlike file table table') :
    LooksAlike file (table.addImport file s (table.newLocalName file s))
      (table'.addImport file s (table'.newLocalName file s)) := by
  refine ⟨h.find?, h.declared, ?_⟩
  rw [importsOf_addImport, importsOf_addImport, if_pos rfl, if_pos rfl, newLocalName, newLocalName, h.declared,
    h.imports]

/-- Two tables look the same from a file, and for all other files the first one is as it was. -/
structure AlikeFrom (file : String) (base table table' : SymbolTable) : Prop where
  looks : LooksAlike file table table'
  elsewhere : SameElsewhere file base table

/-- From a file that cannot tell two tables apart, resolving gives the same name in both and only touches the imports of
the file. -/
theorem resolve_alike_of_looksAlike (base last : SymbolTable) (file : String) (identity : Identity)
    (kind : SymbolKind) :
    Gen.Alike (AlikeFrom file base) last (· = ·) (Gen.resolve (.file file) identity kind)
      (Gen.resolve (.file file) identity kind) := by
  rintro table table' ⟨hlooks, helsewhere⟩
  rcases resolve_cases table file identity kind with hkey | ⟨name, s, hs, hname⟩ | ⟨s, hs, hfile, hnew⟩
  · exact .fault (run_resolve_of_find? hkey) (run_resolve_of_find? ((hlooks.find? _).trans hkey))
  · have hnamed : NamedIn table file ⟨identity, kind⟩ name := ⟨s, hs, hname⟩
    have hnamed' : NamedIn table' file ⟨identity, kind⟩ name :=
      ⟨s, (hlooks.find? _).trans hs, by rwa [hlooks.imports]⟩
    exact .ok hnamed.resolve hnamed'.resolve ⟨hlooks, helsewhere⟩ (Extends.refl table') fun _ => rfl
  · have hs' : table'.find? ⟨identity, kind⟩ = some s := (hlooks.find? _).trans hs
    have hnew' : (table'.importsOf file).localNames.lookup ⟨identity, kind⟩ = none := by
      rw [hlooks.imports, hnew]
    refine .ok (run_resolve_new hs hfile hnew) (run_resolve_new hs' hfile hnew')
      ⟨hlooks.addImport, helsewhere.addImport⟩ (step_newLocalName hs' hfile hnew').extends fun _ => ?_
    rw [newLocalName, newLocalName, hlooks.declared, hlooks.imports]

end ProtoClass.SymbolTable
