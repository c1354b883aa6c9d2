import ProtoClass.Schema.Catalog

/-!
# What a catalogue holds

No two messages of a catalogue have one identity, nor two enums, so every entry is found under its identity
(`message?_of_mem`), and every entry has a name (`Coherent.messageNames`, `Coherent.enumNames`).  A type
name only resolves to an identity that is in the catalogue.  If all files have different names, the entries of a file
are those with its name (`filter_index_eq_filter_name`).
-/

namespace ProtoClass

section FirstByKey

variable {α κ : Type} [DecidableEq κ] {key : α → κ}

theorem mem_of_mem_firstByKey {a : α} {l : List α} (h : a ∈ firstByKey key l) : a ∈ l := by
  induction l with
  | nil => exact h
  | cons b l ih =>
    rcases List.mem_cons.1 h with rfl | h
    · exact List.mem_cons_self
    · exact List.mem_cons_of_mem _ (ih (List.mem_filter.1 h).1)

theorem exists_mem_firstByKey {a : α} {l : List α} (h : a ∈ l) : ∃ b ∈ firstByKey key l, key b = key a := by
  induction l with
  | nil => cases h
  | cons first rest ih =>
    by_cases hfirst : key first = key a
    · exact ⟨first, List.mem_cons_self, hfirst⟩
    · rcases List.mem_cons.1 h with rfl | h
      · exact absurd rfl hfirst
      · obtain ⟨b, hb, hkey⟩ := ih h
        have hne : key b ≠ key first := fun heq => hfirst (heq.symm.trans hkey)
        exact ⟨b, List.mem_cons_of_mem _ (List.mem_filter.2 ⟨hb, by simpa using hne⟩), hkey⟩

theorem firstByKey_pairwise (l : List α) : (firstByKey key l).Pairwise fun a b => key a ≠ key b := by
  induction l with
  | nil => exact List.Pairwise.nil
  | cons a l ih =>
    refine List.pairwise_cons.2 ⟨fun b hb => ?_, ih.filter _⟩
    have hne := (List.mem_filter.1 hb).2
    simp only [decide_eq_true_eq] at hne
    exact Ne.symm hne

end FirstByKey

section Entries

variable {α : Type} {entries : List (Entry α)}

/-- Among entries with different identities, each is the one that is found under its identity. -/
theorem find?_identity_of_mem (h : entries.Pairwise fun a b => a.identity ≠ b.identity) {entry : Entry α}
    (hmem : entry ∈ entries) : entries.find? (·.identity == entry.identity) = some entry := by
  induction entries with
  | nil => cases hmem
  | cons first rest ih =>
    obtain ⟨hfirst, hrest⟩ := List.pairwise_cons.1 h
    rcases List.mem_cons.1 hmem with rfl | hmem
    · simp
    · have hne : first.identity ≠ entry.identity := hfirst entry hmem
      rw [List.find?_cons_of_neg (by simpa using hne)]
      exact ih hrest hmem

theorem find?_identity_eq_some_iff (h : entries.Pairwise fun a b => a.identity ≠ b.identity) {entry : Entry α}
    {identity : Identity} :
    entries.find? (·.identity == identity) = some entry ↔ entry ∈ entries ∧ entry.identity = identity := by
  constructor
  · intro hentry
    exact ⟨List.mem_of_find?_eq_some hentry, by simpa using List.find?_some hentry⟩
  · rintro ⟨hmem, rfl⟩
    exact find?_identity_of_mem h hmem

theorem find?_identity_isSome {entry : Entry α} (hmem : entry ∈ entries) :
    ((firstByKey (·.identity) entries).find? (·.identity == entry.identity)).isSome = true := by
  obtain ⟨first, hfirst, hidentity⟩ : ∃ first ∈ firstByKey (·.identity) entries, first.identity = entry.identity :=
    exists_mem_firstByKey hmem
  exact List.find?_isSome.2 ⟨first, hfirst, by simpa using hidentity⟩

end Entries

/-! ### Files by name and by index -/

theorem exists_mem_zipIdx {α : Type} {l : List α} {a : α} (h : a ∈ l) : ∃ index, (a, index) ∈ l.zipIdx := by
  obtain ⟨index, hindex⟩ := List.mem_iff_getElem?.1 h
  exact ⟨index, List.mk_mem_zipIdx_iff_getElem?.2 hindex⟩

theorem zipIdx_pairwise {α : Type} (l : List α) : l.zipIdx.Pairwise fun a b => a.2 < b.2 := by
  rw [← List.pairwise_map, List.zipIdx_map_snd]
  exact List.pairwise_lt_range'

namespace Schema

variable {schema : Schema} {file file' : FileDecl} {index index' : Nat}

theorem file_eq_of_index (h : (file, index) ∈ schema.files.zipIdx) (h' : (file', index) ∈ schema.files.zipIdx) :
    file = file' := by
  rw [List.mk_mem_zipIdx_iff_getElem?] at h h'
  exact Option.some.inj (h.symm.trans h')

theorem index_eq_of_name (hfiles : (schema.files.map (·.name)).Nodup) (h : (file, index) ∈ schema.files.zipIdx)
    (h' : (file', index') ∈ schema.files.zipIdx) (hname : file.name = file'.name) : index = index' := by
  rw [List.mk_mem_zipIdx_iff_getElem?] at h h'
  have hlt : index < (schema.files.map (·.name)).length := by
    rw [List.length_map]
    exact (List.getElem?_eq_some_iff.1 h).1
  refine (List.getElem?_inj hlt hfiles).1 ?_
  rw [List.getElem?_map, List.getElem?_map, h, h', Option.map_some, Option.map_some, hname]

end Schema

section Entries

variable {α : Type} {schema : Schema} {entries : List (Entry α)} {file : FileDecl} {index : Nat}
  (hentries : ∀ entry ∈ entries, (entry.file, entry.fileIndex) ∈ schema.files.zipIdx)
  (h : (file, index) ∈ schema.files.zipIdx)

include hentries h

theorem mem_of_mem_filter_index {entry : Entry α} (hentry : entry ∈ entries.filter (·.fileIndex == index)) :
    entry ∈ entries ∧ entry.file = file := by
  obtain ⟨hmem, hindex⟩ := List.mem_filter.1 hentry
  have hfile := hentries entry hmem
  rw [beq_iff_eq.1 hindex] at hfile
  exact ⟨hmem, Schema.file_eq_of_index hfile h⟩

/-- If all files have different names, the entries of a file are those with its name. -/
theorem filter_index_eq_filter_name (hfiles : (schema.files.map (·.name)).Nodup) :
    entries.filter (·.fileIndex == index) = entries.filter (·.file.name == file.name) := by
  refine List.filter_congr fun entry hentry => ?_
  have hmem := hentries entry hentry
  rw [Bool.eq_iff_iff, beq_iff_eq, beq_iff_eq]
  constructor
  · rintro rfl
    rw [Schema.file_eq_of_index hmem h]
  · exact Schema.index_eq_of_name hfiles hmem h

end Entries

namespace Catalog

/-- Identities are not repeated among the messages nor among the enums, and all of them have names. -/
structure Coherent (catalog : Catalog) : Prop where
  messages : catalog.messages.Pairwise fun a b => a.identity ≠ b.identity
  enums : catalog.enums.Pairwise fun a b => a.identity ≠ b.identity
  messageNames : ∀ entry ∈ catalog.messages, ∃ name, catalog.name? entry.identity = some name
  enumNames : ∀ entry ∈ catalog.enums, ∃ name, catalog.name? entry.identity = some name

/-- The entries of a schema come from the declarations of its files. -/
theorem mem_messages_ofSchema {schema : Schema} {entry : Entry MessageDecl}
    (h : entry ∈ (ofSchema schema).messages) :
    (entry.file, entry.fileIndex) ∈ schema.files.zipIdx ∧
      ∃ d ∈ entry.file.declarations, d.identity = entry.identity ∧ d.item = .message entry.decl := by
  have hmem := mem_of_mem_firstByKey h
  simp only [List.mem_flatMap, List.mem_filterMap] at hmem
  obtain ⟨⟨file, index⟩, hfile, d, hd, hsome⟩ := hmem
  unfold Declaration.asMessage? at hsome
  split at hsome
  · rename_i decl hitem
    cases hsome
    exact ⟨hfile, d, hd, rfl, hitem⟩
  · cases hsome

theorem mem_enums_ofSchema {schema : Schema} {entry : Entry EnumDecl} (h : entry ∈ (ofSchema schema).enums) :
    (entry.file, entry.fileIndex) ∈ schema.files.zipIdx ∧
      ∃ d ∈ entry.file.declarations, d.identity = entry.identity ∧ d.item = .enum entry.decl := by
  have hmem := mem_of_mem_firstByKey h
  simp only [List.mem_flatMap, List.mem_filterMap] at hmem
  obtain ⟨⟨file, index⟩, hfile, d, hd, hsome⟩ := hmem
  unfold Declaration.asEnum? at hsome
  split at hsome
  · cases hsome
  · rename_i decl hitem
    cases hsome
    exact ⟨hfile, d, hd, rfl, hitem⟩

/-- A message that a file declares is found, itself or an earlier one with its identity. -/
theorem message?_isSome_of_mem {schema : Schema} {file : FileDecl} {d : Declaration} {decl : MessageDecl}
    (hfile : file ∈ schema.files) (hd : d ∈ file.declarations) (hitem : d.item = .message decl) :
    ((ofSchema schema).message? d.identity).isSome = true := by
  obtain ⟨index, hindex⟩ := exists_mem_zipIdx hfile
  have hentry : d.asMessage? file index = some ⟨d.identity, decl, file, index⟩ := by
    rw [Declaration.asMessage?, hitem]
  have hmem : ⟨d.identity, decl, file, index⟩ ∈
      schema.files.zipIdx.flatMap fun item => item.1.declarations.filterMap (·.asMessage? item.1 item.2) :=
    List.mem_flatMap.2 ⟨(file, index), hindex, List.mem_filterMap.2 ⟨d, hd, hentry⟩⟩
  exact find?_identity_isSome hmem

theorem enum?_isSome_of_mem {schema : Schema} {file : FileDecl} {d : Declaration} {decl : EnumDecl}
    (hfile : file ∈ schema.files) (hd : d ∈ file.declarations) (hitem : d.item = .enum decl) :
    ((ofSchema schema).enum? d.identity).isSome = true := by
  obtain ⟨index, hindex⟩ := exists_mem_zipIdx hfile
  have hentry : d.asEnum? file index = some ⟨d.identity, decl, file, index⟩ := by
    rw [Declaration.asEnum?, hitem]
  have hmem : ⟨d.identity, decl, file, index⟩ ∈
      schema.files.zipIdx.flatMap fun item => item.1.declarations.filterMap (·.asEnum? item.1 item.2) :=
    List.mem_flatMap.2 ⟨(file, index), hindex, List.mem_filterMap.2 ⟨d, hd, hentry⟩⟩
  exact find?_identity_isSome hmem

private theorem name?_of_mem {schema : Schema} {file : FileDecl} {index : Nat} {d : Declaration}
    (hfile : (file, index) ∈ schema.files.zipIdx) (hd : d ∈ file.declarations) :
    ∃ name, (ofSchema schema).name? d.identity = some name := by
  have hmem : file ∈ schema.files := (List.mk_mem_zipIdx_iff_getElem?.1 hfile) |> List.mem_of_getElem?
  apply Option.isSome_iff_exists.1
  refine List.lookup_isSome_iff.2 ⟨(d.identity, nestedName d.path), ?_, by simp⟩
  exact List.mem_flatMap.2 ⟨file, hmem, List.mem_map.2 ⟨d, hd, rfl⟩⟩

theorem coherent_ofSchema (schema : Schema) : (ofSchema schema).Coherent where
  messages := firstByKey_pairwise _
  enums := firstByKey_pairwise _
  messageNames := by
    intro entry hentry
    obtain ⟨hfile, d, hd, hidentity, _⟩ := mem_messages_ofSchema hentry
    rw [← hidentity]
    exact name?_of_mem hfile hd
  enumNames := by
    intro entry hentry
    obtain ⟨hfile, d, hd, hidentity, _⟩ := mem_enums_ofSchema hentry
    rw [← hidentity]
    exact name?_of_mem hfile hd

variable {catalog : Catalog}

theorem message?_of_mem (h : catalog.Coherent) {entry : Entry MessageDecl} (hmem : entry ∈ catalog.messages) :
    catalog.message? entry.identity = some entry :=
  find?_identity_of_mem h.messages hmem

/-! ### Resolving type names -/

/-- A name with a leading dot denotes what the rest of it names, if that is declared. -/
theorem resolveName_full (declared : Identity → Bool) (scope : Identity) (name : String) :
    resolveName declared scope ("." ++ name) =
      if declared ⟨name⟩ then .ok ⟨name⟩ else .error (.unknownType name) := by
  have htoList : ("." ++ name).toList = '.' :: name.toList := String.toList_append
  have hname : Identity.ofName ("." ++ name) = ⟨name⟩ := by
    simp [Identity.ofName, htoList]
  rw [resolveName, if_pos (by rw [htoList]; rfl), hname]

theorem resolveName_dot {declared : Identity → Bool} (scope : Identity) {name : String}
    (h : declared ⟨name⟩ = true) : resolveName declared scope ("." ++ name) = .ok ⟨name⟩ := by
  rw [resolveName_full, if_pos h]

private theorem declared_of_resolveName {declared : Identity → Bool} {scope identity : Identity} {name : String}
    (h : resolveName declared scope name = .ok identity) : declared identity = true := by
  unfold resolveName at h
  split at h
  · dsimp only at h
    split at h
    · rename_i hdeclared
      cases h
      exact hdeclared
    · cases h
  · split at h
    · rename_i hfind
      cases h
      exact List.find?_some hfind
    · cases h

theorem resolveName_error {declared : Identity → Bool} {scope : Identity} {name : String} {e : GenError}
    (h : resolveName declared scope name = .error e) : ∃ text, e = .unknownType text := by
  unfold resolveName at h
  split at h
  · dsimp only at h
    split at h
    · cases h
    · cases h
      exact ⟨_, rfl⟩
  · split at h
    · cases h
    · cases h
      exact ⟨_, rfl⟩

theorem exists_enum_of_resolveEnum {scope identity : Identity} {name : String}
    (h : catalog.resolveEnum scope name = .ok identity) : ∃ entry ∈ catalog.enums, entry.identity = identity := by
  obtain ⟨entry, hentry⟩ := Option.isSome_iff_exists.1 (declared_of_resolveName h)
  exact ⟨entry, List.mem_of_find?_eq_some hentry, by simpa using List.find?_some hentry⟩

theorem exists_message_of_resolveMessage {scope identity : Identity} {name : String}
    (h : catalog.resolveMessage scope name = .ok identity) :
    ∃ entry ∈ catalog.messages, entry.identity = identity := by
  obtain ⟨entry, hentry⟩ := Option.isSome_iff_exists.1 (declared_of_resolveName h)
  exact ⟨entry, List.mem_of_find?_eq_some hentry, by simpa using List.find?_some hentry⟩

end Catalog

end ProtoClass
