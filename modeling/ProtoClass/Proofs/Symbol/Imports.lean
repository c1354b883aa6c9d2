import ProtoClass.Proofs.Symbol.Session

/-!
# Imports never clash

In a session that declares the symbols of a file before it resolves names on its behalf, the local names of the file
are different from each other and from the names it declares, a name that was resolved once is resolved the same way
again, and the import list of the file says exactly what was imported (`session_imports_exact`).
-/

namespace ProtoClass.SymbolTable

/-- The call adds a symbol to `file`. -/
def Call.DeclaresIn (file : String) (table : SymbolTable) : Call → Prop
  | register _ identity origin kind => origin = file ∧ table.find? ⟨identity, kind⟩ = none
  | _ => False

/-- The call resolves a name on behalf of `file`. -/
def Call.ResolvesIn (file : String) : Call → Prop
  | resolveIn scope _ _ => scope = file
  | _ => False

/-- No symbol is added to `file` after the first name was resolved on its behalf.  Registering a known symbol again
is allowed at any time. -/
def DeclaredBeforeUse (file : String) (calls : List Call) : Prop :=
  ∀ i (_ : i < calls.length), (∃ call ∈ calls.take i, call.ResolvesIn file) →
    ¬ calls[i].DeclaresIn file (Session.ofCalls (calls.take i)).table

instance (file : String) (table : SymbolTable) : DecidablePred (Call.DeclaresIn file table)
  | .register _ identity origin kind =>
    inferInstanceAs (Decidable (origin = file ∧ table.find? ⟨identity, kind⟩ = none))
  | .lookup _ _ | .resolve _ _ | .resolveIn _ _ _ | .imports _ => .isFalse id

instance (file : String) : DecidablePred (Call.ResolvesIn file)
  | .resolveIn scope _ _ => inferInstanceAs (Decidable (scope = file))
  | .register _ _ _ _ | .lookup _ _ | .resolve _ _ | .imports _ => .isFalse id

instance (file : String) (calls : List Call) : Decidable (DeclaredBeforeUse file calls) :=
  inferInstanceAs (Decidable (∀ i (_ : i < calls.length), (∃ call ∈ calls.take i, call.ResolvesIn file) →
    ¬ calls[i].DeclaresIn file (Session.ofCalls (calls.take i)).table))

/-- The session has imported a symbol of another file into `file`, under a local name. -/
def Session.Imported (session : Session) (file : String) (symbol : Symbol) (localName : String) : Prop :=
  symbol ∈ session.table.symbols ∧ symbol.file ≠ file ∧
    ⟨.resolveIn file symbol.identity symbol.kind, .ok (.name localName)⟩ ∈ session.log

variable {table : SymbolTable} {file : String} {call : Call} {calls : List Call}

/-! ### What a call leaves alone -/

private theorem importsOf_perform (h : ¬ call.ResolvesIn file) :
    (call.perform.run table).2.importsOf file = table.importsOf file := by
  rcases call.perform_cases table with hsame | ⟨_, _, _, _, _, _, hrun⟩ | ⟨scope, _, _, _, rfl, _, _, _, hrun⟩
  · rw [hsame]
  · rw [hrun, importsOf_declare]
  · rw [hrun, importsOf_addImport, if_neg]
    rintro rfl
    exact h rfl

private theorem declaredIn_perform (h : ¬ call.DeclaresIn file table) :
    (call.perform.run table).2.declaredIn file = table.declaredIn file := by
  rcases call.perform_cases table with hsame | ⟨_, _, origin, _, rfl, hkey, hrun⟩ | ⟨_, _, _, _, _, _, _, _, hrun⟩
  · rw [hsame]
  · rw [hrun, declaredIn_declare, if_neg]
    rintro rfl
    exact h ⟨rfl, hkey⟩
  · rw [hrun, declaredIn_addImport]

/-- A local name that a call adds is the one it answers with, and it was free. -/
private theorem localName_of_perform {key : SymbolKey} {name : String}
    (h : ((call.perform.run table).2.importsOf file).localNames.lookup key = some name) :
    (table.importsOf file).localNames.lookup key = some name ∨
      call = .resolveIn file key.identity key.kind ∧ (call.perform.run table).1 = .ok (.name name) ∧
        name ∉ table.declaredIn file := by
  rcases call.perform_cases table with hsame | ⟨_, _, _, _, _, _, hrun⟩ | ⟨scope, _, _, s, rfl, hs, _, _, hrun⟩
  · rw [hsame] at h
    exact Or.inl h
  · rw [hrun, importsOf_declare] at h
    exact Or.inl h
  · rw [hrun] at h ⊢
    rcases localName_of_addImport h with hold | ⟨rfl, hkey, rfl⟩
    · exact Or.inl hold
    · exact Or.inr ⟨by rw [hkey, (find?_eq_some hs).2], rfl, (table.newLocalName_free file s).1⟩

/-! ### Along a session -/

theorem DeclaredBeforeUse.of_concat (h : DeclaredBeforeUse file (calls ++ [call])) :
    DeclaredBeforeUse file calls ∧
      ((∃ c ∈ calls, c.ResolvesIn file) → ¬ call.DeclaresIn file (Session.ofCalls calls).table) := by
  constructor
  · intro i hi hused
    have hlt : i < (calls ++ [call]).length := by
      rw [List.length_append]
      omega
    have htake : (calls ++ [call]).take i = calls.take i := List.take_append_of_le_length (by omega)
    have := h i hlt
    rw [htake, List.getElem_append_left hi] at this
    exact this hused
  · intro hused
    have hlt : calls.length < (calls ++ [call]).length := by simp
    have := h calls.length hlt
    rw [List.take_left, List.getElem_concat_length rfl] at this
    exact this hused

private theorem importsOf_of_unused (h : ∀ c ∈ calls, ¬ c.ResolvesIn file) :
    (Session.ofCalls calls).table.importsOf file = {} := by
  induction calls using List.reverseRecOn with
  | nil => rfl
  | append_singleton calls call ih =>
    rw [Session.ofCalls_concat, Session.table_perform, importsOf_perform (h call (by simp))]
    exact ih fun c hc => h c (List.mem_append_left _ hc)

/-- The local names of a file are clear of the names it declares. -/
private theorem localName_not_declared (h : DeclaredBeforeUse file calls) (key : SymbolKey) (name : String)
    (hname : ((Session.ofCalls calls).table.importsOf file).localNames.lookup key = some name) :
    name ∉ (Session.ofCalls calls).table.declaredIn file := by
  induction calls using List.reverseRecOn with
  | nil => simp [Session.ofCalls, importsOf] at hname
  | append_singleton calls call ih =>
    obtain ⟨hbefore, hlast⟩ := h.of_concat
    rw [Session.ofCalls_concat, Session.table_perform] at hname ⊢
    by_cases hdeclares : call.DeclaresIn file (Session.ofCalls calls).table
    · -- the file has resolved nothing yet, so it has no local names
      have hunused : ∀ c ∈ calls ++ [call], ¬ c.ResolvesIn file := by
        intro c hc hused
        rcases List.mem_append.1 hc with hc | hc
        · exact hlast ⟨c, hc, hused⟩ hdeclares
        · rw [List.mem_singleton.1 hc] at hused
          cases call <;> simp_all [Call.ResolvesIn, Call.DeclaresIn]
      have hempty := importsOf_of_unused hunused
      rw [Session.ofCalls_concat, Session.table_perform] at hempty
      simp [hempty] at hname
    · rw [declaredIn_perform hdeclares]
      rcases localName_of_perform hname with hold | ⟨_, _, hfree⟩
      · exact ih hbefore hold
      · exact hfree

/-- A name that was resolved on behalf of a file is settled there. -/
theorem namedIn_of_mem_log {identity : Identity} {kind : SymbolKind} {name : String}
    (h : ⟨.resolveIn file identity kind, .ok (.name name)⟩ ∈ (Session.ofCalls calls).log) :
    NamedIn (Session.ofCalls calls).table file ⟨identity, kind⟩ name := by
  induction calls using List.reverseRecOn with
  | nil => simp [Session.ofCalls] at h
  | append_singleton calls call ih =>
    rw [Session.ofCalls_concat, Session.log_perform, List.mem_append, List.mem_singleton] at h
    rw [Session.ofCalls_concat, Session.table_perform]
    rcases h with hlog | hevent
    · exact (ih hlog).mono (call.extends _)
    · obtain ⟨rfl, hanswer⟩ := Event.mk.inj hevent
      rw [run_perform_resolveIn] at hanswer ⊢
      rcases hrun : (Gen.resolve (.file file) identity kind).run (Session.ofCalls calls).table with ⟨_ | answer, after⟩
      · rw [hrun] at hanswer
        cases hanswer
      · rw [hrun] at hanswer
        cases hanswer
        exact namedIn_of_resolve hrun

/-- Every local name of a file was answered by a call that resolved on its behalf. -/
theorem mem_log_of_localName {key : SymbolKey} {name : String}
    (h : ((Session.ofCalls calls).table.importsOf file).localNames.lookup key = some name) :
    ⟨.resolveIn file key.identity key.kind, .ok (.name name)⟩ ∈ (Session.ofCalls calls).log := by
  induction calls using List.reverseRecOn with
  | nil => simp [Session.ofCalls, importsOf] at h
  | append_singleton calls call ih =>
    rw [Session.ofCalls_concat, Session.table_perform] at h
    rw [Session.ofCalls_concat, Session.log_perform, List.mem_append, List.mem_singleton]
    rcases localName_of_perform h with hold | ⟨hcall, hanswer, _⟩
    · exact Or.inl (ih hold)
    · exact Or.inr (by rw [hanswer, hcall])

/-- What was imported is what has a local name. -/
private theorem imported_iff {symbol : Symbol} {name : String} :
    (Session.ofCalls calls).Imported file symbol name ↔
      symbol ∈ (Session.ofCalls calls).table.symbols ∧
        ((Session.ofCalls calls).table.importsOf file).localNames.lookup symbol.key = some name := by
  have hwell := Session.wellFormed calls
  constructor
  · rintro ⟨hmem, hfile, hlog⟩
    refine ⟨hmem, ?_⟩
    obtain ⟨s, hs, hcase⟩ := namedIn_of_mem_log hlog
    obtain rfl : s = symbol := by
      rw [show (⟨symbol.identity, symbol.kind⟩ : SymbolKey) = symbol.key from rfl,
        hwell.find?_eq_some_iff.2 ⟨hmem, rfl⟩] at hs
      exact (Option.some.inj hs).symm
    rcases hcase with ⟨hlocal, _⟩ | ⟨_, hname⟩
    · exact absurd hlocal hfile
    · exact hname
  · rintro ⟨hmem, hname⟩
    obtain ⟨s, hs, hkey, hfile⟩ := (hwell.imports file).foreign _ _ hname
    rw [hwell.keys s hs symbol hmem hkey] at hfile
    exact ⟨hmem, hfile, mem_log_of_localName hname⟩

/-- After any calls that declare the symbols of `file` before names are resolved on its behalf: symbols imported into
it have local names different from each other and from the names it declares; a name that was resolved is resolved the
same way again; and its import list holds, under the file that declares it, the specifier of every imported symbol and
nothing else, in order, and nothing under `file` itself. -/
theorem session_imports_exact (calls : List Call) (file : String) (h : DeclaredBeforeUse file calls) :
    let session := Session.ofCalls calls
    (∀ s s' name name', session.Imported file s name → session.Imported file s' name' →
      s.key ≠ s'.key → name ≠ name') ∧
    (∀ s name, session.Imported file s name → name ∉ session.table.declaredIn file) ∧
    (∀ identity kind name, ⟨.resolveIn file identity kind, .ok (.name name)⟩ ∈ session.log →
      (Call.resolveIn file identity kind).perform.run session.table = (.ok (.name name), session.table)) ∧
    (∀ origin specifier, Holds (session.table.importList file) origin specifier ↔
      ∃ s name, session.Imported file s name ∧ s.file = origin ∧ specifier = importSpecifier s.name name) ∧
    ImportsInOrder (session.table.importList file) ∧
    (∀ entry ∈ session.table.importList file, entry.1 ≠ file) := by
  intro session
  have hwell : session.table.WellFormed := Session.wellFormed calls
  have himports := hwell.imports file
  refine ⟨?_, ?_, ?_, ?_, himports.inOrder, ?_⟩
  · intro s s' name name' hs hs' hkey heq
    subst heq
    exact hkey (himports.distinct _ _ _ (imported_iff.1 hs).2 (imported_iff.1 hs').2)
  · intro s name hs
    exact localName_not_declared h s.key name (imported_iff.1 hs).2
  · intro identity kind name hlog
    rw [run_perform_resolveIn, (namedIn_of_mem_log hlog).resolve]
    rfl
  · intro origin specifier
    show Holds (session.table.importsOf file).byOrigin origin specifier ↔ _
    rw [himports.holds]
    constructor
    · rintro ⟨s, hs, name, hname, hrest⟩
      exact ⟨s, name, imported_iff.2 ⟨hs, hname⟩, hrest⟩
    · rintro ⟨s, name, hs, hrest⟩
      obtain ⟨hmem, hname⟩ := imported_iff.1 hs
      exact ⟨s, hmem, name, hname, hrest⟩
  · intro entry hentry horigin
    obtain ⟨specifier, hspecifier⟩ := List.exists_mem_of_ne_nil _ (himports.inOrder.specifiers entry hentry).1
    obtain ⟨s, hs, name, hname, hfile, _⟩ := (himports.holds entry.1 specifier).1 ⟨entry.2, hentry, hspecifier⟩
    exact (imported_iff.2 ⟨hs, hname⟩ : session.Imported file s name).2.1 (hfile.trans horigin)

/-- Three files declare a `Point`; the third one refers to the other two and is registered again in between. -/
def pointCalls : List Call :=
  [.register "Point" ⟨"a.Point"⟩ "a.proto" .message, .register "Point" ⟨"b.Point"⟩ "b.proto" .message,
    .register "Point" ⟨"c.Point"⟩ "c.proto" .message, .resolveIn "c.proto" ⟨"a.Point"⟩ .message,
    .register "Point" ⟨"c.Point"⟩ "c.proto" .message, .resolveIn "c.proto" ⟨"b.Point"⟩ .message]

private theorem pointCalls_imported :
    (Session.ofCalls pointCalls).Imported "c.proto" ⟨"Point", "Point", ⟨"b.Point"⟩, "b.proto", .message⟩ "Point$2" :=
  ⟨by decide, by decide, List.mem_iff_getElem?.2 ⟨5, rfl⟩⟩

theorem session_imports_exact_points :
    DeclaredBeforeUse "c.proto" pointCalls ∧
      "Point$2" ∉ (Session.ofCalls pointCalls).table.declaredIn "c.proto" ∧
      Holds ((Session.ofCalls pointCalls).table.importList "c.proto") "b.proto" "Point as Point$2" := by
  have hdeclared : DeclaredBeforeUse "c.proto" pointCalls := by decide
  obtain ⟨_, hfree, _, hholds, _⟩ := session_imports_exact pointCalls "c.proto" hdeclared
  exact ⟨hdeclared, hfree _ _ pointCalls_imported,
    (hholds _ _).2 ⟨_, _, pointCalls_imported, rfl, by decide⟩⟩

end ProtoClass.SymbolTable
