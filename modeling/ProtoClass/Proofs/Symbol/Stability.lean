import ProtoClass.Proofs.Symbol.Session

/-!
# Declared names are distinct and stable

Along every session the symbols of a table are those of the successful registrations (`mem_symbols_iff_mem_log`), two
of them in one file have different names, the declared names of a file are theirs, a name that was registered is
answered ever after, and a registration fails exactly on a conflict and then changes nothing
(`session_names_stable`).
-/

namespace ProtoClass.SymbolTable

variable {table table' : SymbolTable} {name file declared : String} {identity : Identity} {kind : SymbolKind}

/-- A successful registration leaves the symbol it answers for in the table. -/
theorem find?_of_register (h : (Gen.register name identity file kind).run table = (.ok declared, table')) :
    table'.find? ⟨identity, kind⟩ = some ⟨declared, name, identity, file, kind⟩ := by
  rcases register_cases table name identity file kind with hkey | ⟨s, hkey, hname, hfile⟩ | ⟨s, hkey, hother⟩
  · rw [run_register_new hkey] at h
    cases h
    exact find?_declare_self hkey
  · rw [run_register_known hkey hname hfile] at h
    cases h
    obtain ⟨_, hs⟩ := find?_eq_some hkey
    obtain ⟨declared, requested, identity', file', kind'⟩ := s
    cases hs
    cases hname
    cases hfile
    exact hkey
  · rw [run_register_conflict hkey hother] at h
    cases h

private theorem outcome_register (name : String) (identity : Identity) (file : String) (kind : SymbolKind)
    (h : ((Call.register name identity file kind).perform.run table).1 = .ok (.name declared)) :
    (Gen.register name identity file kind).run table =
      (.ok declared, ((Call.register name identity file kind).perform.run table).2) := by
  rw [run_perform_register] at h ⊢
  rcases hrun : (Gen.register name identity file kind).run table with ⟨_ | answer, after⟩
  · rw [hrun] at h
    cases h
  · rw [hrun] at h
    cases h
    rfl

/-- The only call that adds a symbol is the registration that answers with its name. -/
private theorem mem_symbols_of_perform {call : Call} {s : Symbol} (h : s ∈ (call.perform.run table).2.symbols) :
    s ∈ table.symbols ∨ call = .register s.requested s.identity s.file s.kind ∧
      (call.perform.run table).1 = .ok (.name s.name) := by
  rcases call.perform_cases table with hsame | ⟨_, _, _, _, rfl, _, hrun⟩ | ⟨_, _, _, _, _, _, _, _, hrun⟩
  · rw [hsame] at h
    exact Or.inl h
  · rw [hrun] at h ⊢
    rcases List.mem_append.1 h with h | h
    · exact Or.inl h
    · rw [List.mem_singleton.1 h]
      exact Or.inr ⟨rfl, rfl⟩
  · rw [hrun] at h
    exact Or.inl h

/-- The symbols of a table are those of the successful registrations. -/
theorem mem_symbols_iff_mem_log (calls : List Call) (s : Symbol) :
    s ∈ (Session.ofCalls calls).table.symbols ↔
      ⟨.register s.requested s.identity s.file s.kind, .ok (.name s.name)⟩ ∈ (Session.ofCalls calls).log := by
  induction calls using List.reverseRecOn with
  | nil => simp [Session.ofCalls]
  | append_singleton calls call ih =>
    have hwell := Session.wellFormed calls
    rw [Session.ofCalls_concat, Session.table_perform, Session.log_perform, List.mem_append, List.mem_singleton]
    constructor
    · intro hs
      rcases mem_symbols_of_perform hs with hs | ⟨hcall, hanswer⟩
      · exact Or.inl (ih.1 hs)
      · exact Or.inr (by rw [← hcall, hanswer])
    · rintro (hlog | hevent)
      · have hold := (hwell.find?_eq_some_iff).2 ⟨ih.2 hlog, rfl⟩
        exact (find?_eq_some ((call.extends _).find? _ _ hold)).1
      · obtain ⟨rfl, hanswer⟩ := Event.mk.inj hevent
        exact (find?_eq_some (find?_of_register (outcome_register _ _ _ _ hanswer.symm))).1

/-- Registering fails exactly if the key has a symbol with another requested name or in another file. -/
private theorem register_fails_iff :
    (∃ wanted existing label, ((Call.register name identity file kind).perform.run table).1 =
        .error (.symbolConflict wanted existing label)) ↔
      ∃ s, table.find? ⟨identity, kind⟩ = some s ∧ (s.requested ≠ name ∨ s.file ≠ file) := by
  rw [run_perform_register]
  constructor
  · rintro ⟨wanted, existing, label, h⟩
    rcases register_cases table name identity file kind with hkey | ⟨s, hkey, hname, hfile⟩ | hconflict
    · rw [run_register_new hkey] at h
      cases h
    · rw [run_register_known hkey hname hfile] at h
      cases h
    · exact hconflict
  · rintro ⟨s, hkey, hother⟩
    rw [run_register_conflict hkey hother]
    exact ⟨_, _, _, rfl⟩

private theorem table_of_register_error {e : GenError}
    (h : ((Call.register name identity file kind).perform.run table).1 = .error e) :
    ((Call.register name identity file kind).perform.run table).2 = table := by
  rw [run_perform_register] at h ⊢
  rcases register_cases table name identity file kind with hkey | ⟨s, hkey, hname, hfile⟩ | ⟨s, hkey, hother⟩
  · rw [run_register_new hkey] at h
    cases h
  · rw [run_register_known hkey hname hfile]
  · rw [run_register_conflict hkey hother]

/-- A symbol that is in the table is what looking up, resolving and registering it again answer, and resolving it on
behalf of its own file. -/
private theorem answers_of_find? (h : table.find? ⟨identity, kind⟩ = some ⟨declared, name, identity, file, kind⟩) :
    (Call.lookup identity kind).perform.run table = (.ok (.symbol ⟨declared, name, identity, file, kind⟩), table) ∧
    (Call.resolve identity kind).perform.run table = (.ok (.name declared), table) ∧
    (Call.resolveIn file identity kind).perform.run table = (.ok (.name declared), table) ∧
    (Call.register name identity file kind).perform.run table = (.ok (.name declared), table) := by
  have hnamed : NamedIn table file ⟨identity, kind⟩ declared := ⟨_, h, Or.inl ⟨rfl, rfl⟩⟩
  refine ⟨?_, ?_, ?_, ?_⟩
  · rw [run_perform_lookup, lookup_eq_ok.2 h]
    rfl
  · rw [run_perform_resolve, lookup_eq_ok.2 h]
    rfl
  · rw [run_perform_resolveIn, hnamed.resolve]
    rfl
  · rw [run_perform_register, run_register_known h rfl rfl]
    rfl

/-- After any calls: symbols of one file with different keys have different names; the declared names of a file are
the names of its symbols; what a successful registration answers, later calls answer too, on behalf of the file itself
or of none; and a registration fails exactly if the key was registered with another name or for another file, and then
the table stays as it is. -/
theorem session_names_stable (calls : List Call) :
    let session := Session.ofCalls calls
    (∀ s ∈ session.table.symbols, ∀ s' ∈ session.table.symbols,
      s.key ≠ s'.key → s.file = s'.file → s.name ≠ s'.name) ∧
    (∀ file name, name ∈ session.table.declaredIn file ↔
      ∃ s ∈ session.table.symbols, s.file = file ∧ s.name = name) ∧
    (∀ name identity file kind declared,
      ((Call.register name identity file kind).perform.run session.table).1 = .ok (.name declared) →
      ∀ later : List Call,
        let table := ((session.perform (.register name identity file kind)).performAll later).table
        (Call.lookup identity kind).perform.run table =
            (.ok (.symbol ⟨declared, name, identity, file, kind⟩), table) ∧
          (Call.resolve identity kind).perform.run table = (.ok (.name declared), table) ∧
          (Call.resolveIn file identity kind).perform.run table = (.ok (.name declared), table) ∧
          (Call.register name identity file kind).perform.run table = (.ok (.name declared), table)) ∧
    (∀ name identity file kind,
      ((∃ wanted existing label, ((Call.register name identity file kind).perform.run session.table).1 =
          .error (.symbolConflict wanted existing label)) ↔
        ∃ name' file' declared, ⟨.register name' identity file' kind, .ok (.name declared)⟩ ∈ session.log ∧
          (name' ≠ name ∨ file' ≠ file)) ∧
      ∀ e, ((Call.register name identity file kind).perform.run session.table).1 = .error e →
        ((Call.register name identity file kind).perform.run session.table).2 = session.table) := by
  intro session
  have hwell : session.table.WellFormed := Session.wellFormed calls
  refine ⟨?_, hwell.declared, ?_, ?_⟩
  · intro s hs s' hs' hkey hfile hname
    exact hkey (by rw [hwell.names s hs s' hs' hfile hname])
  · intro name identity file kind declared h later
    have hfind := find?_of_register (outcome_register _ _ _ _ h)
    have hext := Session.extends_performAll (session.perform (.register name identity file kind)) later
    exact answers_of_find? (hext.find? _ _ hfind)
  · intro name identity file kind
    refine ⟨?_, fun e => table_of_register_error⟩
    rw [register_fails_iff]
    constructor
    · rintro ⟨s, hs, hother⟩
      obtain ⟨hmem, hkey⟩ := find?_eq_some hs
      cases hkey
      exact ⟨s.requested, s.file, s.name, (mem_symbols_iff_mem_log calls s).1 hmem, hother⟩
    · rintro ⟨name', file', declared, hlog, hother⟩
      have hmem := (mem_symbols_iff_mem_log calls ⟨declared, name', identity, file', kind⟩).2 hlog
      exact ⟨_, hwell.find?_eq_some_iff.2 ⟨hmem, rfl⟩, hother⟩

end ProtoClass.SymbolTable
