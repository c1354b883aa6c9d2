import Mathlib.Data.List.Perm.Basic
import ProtoClass.Proofs.Resolution.Message

/-!
# Catalogues of the same files in another order

If no two declarations of a schema have one identity, the order of its files does not matter for what the catalogue
finds (`like_of_perm`), nor for the entries of one file (`map_unplaced_filter_of_perm`).
-/

namespace ProtoClass

theorem firstByKey_eq_self {α κ : Type} [DecidableEq κ] {key : α → κ} {l : List α}
    (h : l.Pairwise fun a b => key a ≠ key b) : firstByKey key l = l := by
  induction l with
  | nil => rfl
  | cons a rest ih =>
    obtain ⟨hfirst, hrest⟩ := List.pairwise_cons.1 h
    rw [firstByKey, ih hrest, List.filter_eq_self.2]
    intro b hb
    simpa using (hfirst b hb).symm

/-- Entries with different identities are found the same in any order. -/
theorem find?_identity_of_perm {α : Type} {entries entries' : List (Entry α)}
    (h : entries.Pairwise fun a b => a.identity ≠ b.identity) (hperm : entries.Perm entries') (identity : Identity) :
    entries.find? (·.identity == identity) = entries'.find? (·.identity == identity) := by
  have h' : entries'.Pairwise fun a b => a.identity ≠ b.identity :=
    (hperm.pairwise_iff fun hne => Ne.symm hne).1 h
  ext entry
  rw [find?_identity_eq_some_iff h, find?_identity_eq_some_iff h', hperm.mem_iff]

private theorem lookup_of_perm {names names' : List (Identity × String)} (hperm : names.Perm names')
    (hdistinct : (names.map Prod.fst).Nodup) (identity : Identity) :
    names'.lookup identity = names.lookup identity := by
  induction hperm with
  | nil => rfl
  | cons pair _ ih =>
    obtain ⟨key, name⟩ := pair
    rw [List.lookup_cons, List.lookup_cons, ih (List.nodup_cons.1 hdistinct).2]
  | swap first second rest =>
    obtain ⟨key, name⟩ := first
    obtain ⟨key', name'⟩ := second
    have hne : key' ≠ key := fun heq => (List.nodup_cons.1 hdistinct).1 (by simp [heq])
    simp only [List.lookup_cons]
    by_cases hkey : identity = key
    · simp [hkey, beq_false_of_ne hne.symm]
    · simp [beq_false_of_ne hkey]
  | trans hperm _ ih ih' =>
    rw [ih' ((hperm.map Prod.fst).nodup_iff.1 hdistinct), ih hdistinct]

/-- At most one file has a given name. -/
theorem filter_name_eq_of_perm {files files' : List FileDecl} (hperm : files.Perm files')
    (hnames : (files.map (·.name)).Nodup) (name : String) :
    files'.filter (·.name == name) = files.filter (·.name == name) := by
  have hfiltered := hperm.filter (·.name == name)
  have hpairwise : (files.filter (·.name == name)).Pairwise fun a b => a.name ≠ b.name :=
    (List.pairwise_map.1 hnames).filter _
  have hname : ∀ file ∈ files.filter (·.name == name), file.name = name := by
    intro file hfile
    simpa using (List.mem_filter.1 hfile).2
  generalize files.filter (·.name == name) = l at hfiltered hpairwise hname
  rcases l with _ | ⟨file, _ | ⟨other, rest⟩⟩
  · exact hfiltered.symm.eq_nil
  · exact List.perm_singleton.1 hfiltered.symm
  · refine absurd ?_ ((List.pairwise_cons.1 hpairwise).1 other List.mem_cons_self)
    rw [hname file List.mem_cons_self, hname other (List.mem_cons_of_mem _ List.mem_cons_self)]

/-! ### Entries of one sort -/

/-- An entry apart from the position of its file. -/
def Entry.unplaced {α : Type} (entry : Entry α) : Entry α :=
  { entry with fileIndex := 0 }

def DeclaredItem.message? : DeclaredItem → Option MessageDecl
  | message decl => some decl
  | enum _ => none

def DeclaredItem.enum? : DeclaredItem → Option EnumDecl
  | message _ => none
  | enum decl => some decl

section Entries

variable {α : Type} (pick : DeclaredItem → Option α)

/-- The entry for a declaration, if it is of the sort that `pick` picks. -/
def Declaration.asEntry (file : FileDecl) (index : Nat) (d : Declaration) : Option (Entry α) :=
  (pick d.item).map fun decl => ⟨d.identity, decl, file, index⟩

/-- All entries of one sort. -/
def entriesOf (files : List FileDecl) : List (Entry α) :=
  files.zipIdx.flatMap fun (file, index) => file.declarations.filterMap (·.asEntry pick file index)

variable {pick} {files files' : List FileDecl}

theorem Declaration.asEntry_eq_some {file : FileDecl} {index : Nat} {d : Declaration} {entry : Entry α}
    (h : d.asEntry pick file index = some entry) : entry.identity = d.identity ∧ entry.file = file := by
  obtain ⟨decl, _, rfl⟩ := Option.map_eq_some_iff.1 h
  exact ⟨rfl, rfl⟩

theorem entriesOf_pairwise (hdistinct : ((files.flatMap (·.declarations)).map (·.identity)).Nodup) :
    (entriesOf pick files).Pairwise fun a b => a.identity ≠ b.identity := by
  obtain ⟨hwithin, hacross⟩ := List.pairwise_flatMap.1 (List.pairwise_map.1 hdistinct)
  refine List.pairwise_flatMap.2 ⟨fun item hitem => ?_, ?_⟩
  · rw [List.pairwise_filterMap]
    refine (hwithin item.1 (List.fst_mem_of_mem_zipIdx hitem)).imp ?_
    intro d d' hne entry hentry entry' hentry'
    rw [(Declaration.asEntry_eq_some hentry).1, (Declaration.asEntry_eq_some hentry').1]
    exact hne
  · rw [← List.zipIdx_map_fst 0 files, List.pairwise_map] at hacross
    refine hacross.imp ?_
    intro item item' hne entry hentry entry' hentry'
    obtain ⟨d, hd, hentry⟩ := List.mem_filterMap.1 hentry
    obtain ⟨d', hd', hentry'⟩ := List.mem_filterMap.1 hentry'
    rw [(Declaration.asEntry_eq_some hentry).1, (Declaration.asEntry_eq_some hentry').1]
    exact hne d hd d' hd'

theorem map_unplaced_entriesOf (files : List FileDecl) :
    (entriesOf pick files).map Entry.unplaced =
      files.flatMap fun file => file.declarations.filterMap (·.asEntry pick file 0) := by
  have hblock : ∀ item : FileDecl × Nat,
      (item.1.declarations.filterMap (·.asEntry pick item.1 item.2)).map Entry.unplaced =
        item.1.declarations.filterMap (·.asEntry pick item.1 0) := by
    intro item
    rw [List.map_filterMap]
    refine List.filterMap_congr fun d _ => ?_
    unfold Declaration.asEntry
    rw [Option.map_map]
    rfl
  conv_rhs => rw [← List.zipIdx_map_fst 0 files, List.flatMap_map]
  rw [entriesOf, List.map_flatMap]
  exact List.flatMap_congr fun item _ => hblock item

/-- Entries with different identities are found the same in any order. -/
theorem find?_unplaced_of_perm (hperm : files.Perm files')
    (hdistinct : ((files.flatMap (·.declarations)).map (·.identity)).Nodup) (identity : Identity) :
    ((entriesOf pick files').find? (·.identity == identity)).map Entry.unplaced =
      ((entriesOf pick files).find? (·.identity == identity)).map Entry.unplaced := by
  have hunplaced : ∀ entries : List (Entry α), (entries.find? (·.identity == identity)).map Entry.unplaced =
      (entries.map Entry.unplaced).find? (·.identity == identity) := by
    intro entries
    rw [List.find?_map]
    rfl
  have hentries : ((entriesOf pick files).map Entry.unplaced).Perm ((entriesOf pick files').map Entry.unplaced) := by
    rw [map_unplaced_entriesOf, map_unplaced_entriesOf]
    exact hperm.flatMap_right _
  have hpairwise : ((entriesOf pick files).map Entry.unplaced).Pairwise fun a b => a.identity ≠ b.identity :=
    List.pairwise_map.2 (entriesOf_pairwise hdistinct)
  rw [hunplaced, hunplaced]
  exact (find?_identity_of_perm hpairwise hentries identity).symm

private theorem filter_flatMap_entries (files : List FileDecl) (name : String) :
    (files.flatMap fun file => file.declarations.filterMap (·.asEntry pick file 0)).filter (·.file.name == name) =
      (files.filter (·.name == name)).flatMap fun file => file.declarations.filterMap (·.asEntry pick file 0) := by
  have hfile : ∀ file : FileDecl, ∀ entry ∈ file.declarations.filterMap (·.asEntry pick file 0), entry.file = file := by
    intro file entry hentry
    obtain ⟨d, _, hd⟩ := List.mem_filterMap.1 hentry
    exact (Declaration.asEntry_eq_some hd).2
  induction files with
  | nil => rfl
  | cons file rest ih =>
    rw [List.flatMap_cons, List.filter_append, ih]
    by_cases hname : file.name = name
    · rw [List.filter_cons_of_pos (by simpa using hname), List.flatMap_cons, List.filter_eq_self.2]
      intro entry hentry
      rw [hfile file entry hentry]
      simpa using hname
    · rw [List.filter_cons_of_neg (by simpa using hname), List.filter_eq_nil_iff.2, List.nil_append]
      intro entry hentry
      rw [hfile file entry hentry]
      simpa using hname

/-- The entries of a file are the same in any order of the files. -/
theorem map_unplaced_filter_of_perm (hperm : files.Perm files') (hnames : (files.map (·.name)).Nodup) (name : String) :
    ((entriesOf pick files').filter (·.file.name == name)).map Entry.unplaced =
      ((entriesOf pick files).filter (·.file.name == name)).map Entry.unplaced := by
  have hfiltered : ∀ files : List FileDecl, ((entriesOf pick files).filter (·.file.name == name)).map Entry.unplaced =
      (files.filter (·.name == name)).flatMap fun file => file.declarations.filterMap (·.asEntry pick file 0) := by
    intro files
    have hcomp : (entriesOf pick files).filter (·.file.name == name) =
        (entriesOf pick files).filter ((fun entry : Entry α => entry.file.name == name) ∘ Entry.unplaced) := rfl
    rw [hcomp, ← List.filter_map, map_unplaced_entriesOf]
    exact filter_flatMap_entries files name
  rw [hfiltered, hfiltered, filter_name_eq_of_perm hperm hnames]

end Entries

/-! ### Catalogues that find the same -/

namespace Catalog

/-- Two catalogues find the same messages, enums and names under every identity, wherever their files stand. -/
structure Like (catalog catalog' : Catalog) : Prop where
  message : ∀ identity, (catalog'.message? identity).map Entry.unplaced = (catalog.message? identity).map Entry.unplaced
  enum : ∀ identity, (catalog'.enum? identity).map Entry.unplaced = (catalog.enum? identity).map Entry.unplaced
  name : ∀ identity, catalog'.name? identity = catalog.name? identity

theorem Like.refl (catalog : Catalog) : Like catalog catalog :=
  ⟨fun _ => rfl, fun _ => rfl, fun _ => rfl⟩

section OfSchema

variable {schema schema' : Schema}

theorem messages_eq_firstByKey (schema : Schema) :
    (ofSchema schema).messages = firstByKey (·.identity) (entriesOf DeclaredItem.message? schema.files) := by
  have hentry : ∀ (file : FileDecl) (index : Nat) (d : Declaration),
      d.asMessage? file index = d.asEntry DeclaredItem.message? file index := by
    intro file index d
    unfold Declaration.asMessage? Declaration.asEntry
    cases d.item <;> rfl
  unfold ofSchema
  simp only [hentry]
  rfl

theorem enums_eq_firstByKey (schema : Schema) :
    (ofSchema schema).enums = firstByKey (·.identity) (entriesOf DeclaredItem.enum? schema.files) := by
  have hentry : ∀ (file : FileDecl) (index : Nat) (d : Declaration),
      d.asEnum? file index = d.asEntry DeclaredItem.enum? file index := by
    intro file index d
    unfold Declaration.asEnum? Declaration.asEntry
    cases d.item <;> rfl
  unfold ofSchema
  simp only [hentry]
  rfl

theorem messages_eq_entriesOf
    (hdistinct : ((schema.files.flatMap (·.declarations)).map (·.identity)).Nodup) :
    (ofSchema schema).messages = entriesOf DeclaredItem.message? schema.files := by
  rw [messages_eq_firstByKey, firstByKey_eq_self (entriesOf_pairwise hdistinct)]

theorem enums_eq_entriesOf
    (hdistinct : ((schema.files.flatMap (·.declarations)).map (·.identity)).Nodup) :
    (ofSchema schema).enums = entriesOf DeclaredItem.enum? schema.files := by
  rw [enums_eq_firstByKey, firstByKey_eq_self (entriesOf_pairwise hdistinct)]

/-- The order of the files does not matter for what is found. -/
theorem like_of_perm (hperm : schema.files.Perm schema'.files)
    (hdistinct : ((schema.files.flatMap (·.declarations)).map (·.identity)).Nodup) :
    Like (ofSchema schema) (ofSchema schema') := by
  have hperm' := hperm.flatMap_right (·.declarations)
  have hdistinct' : ((schema'.files.flatMap (·.declarations)).map (·.identity)).Nodup :=
    (hperm'.map _).nodup_iff.1 hdistinct
  refine ⟨fun identity => ?_, fun identity => ?_, fun identity => ?_⟩
  · unfold message?
    rw [messages_eq_entriesOf hdistinct, messages_eq_entriesOf hdistinct']
    exact find?_unplaced_of_perm hperm hdistinct identity
  · unfold enum?
    rw [enums_eq_entriesOf hdistinct, enums_eq_entriesOf hdistinct']
    exact find?_unplaced_of_perm hperm hdistinct identity
  · refine lookup_of_perm (hperm.flatMap_right _) ?_ identity
    rw [List.map_flatMap] at hdistinct ⊢
    simpa [Function.comp_def] using hdistinct

end OfSchema

section Resolving

variable {catalog catalog' : Catalog} (h : Like catalog catalog')

include h

theorem Like.resolveType (scope : Identity) (type : FieldType) :
    catalog'.resolveType scope type = catalog.resolveType scope type := by
  have hmessage : catalog'.resolveMessage = catalog.resolveMessage := by
    unfold resolveMessage
    congr 1
    funext identity
    simpa using congrArg Option.isSome (h.message identity)
  have henum : catalog'.resolveEnum = catalog.resolveEnum := by
    unfold resolveEnum
    congr 1
    funext identity
    simpa using congrArg Option.isSome (h.enum identity)
  induction type with
  | scalar kind => rfl
  | enum name => rw [resolveType_enum, resolveType_enum, henum]
  | message name => rw [resolveType_message, resolveType_message, hmessage]
  | map key value ih => rw [resolveType_map, resolveType_map, ih]
  | group name => rfl

theorem Like.resolveFields {entry entry' : Entry MessageDecl} (hentry : entry'.unplaced = entry.unplaced)
    (discriminator : String) (given : PropertyNames) (fields : List FieldDecl) :
    catalog'.resolveFields entry' discriminator given fields =
      catalog.resolveFields entry discriminator given fields := by
  have hfield : ∀ given field, catalog'.resolveField entry' discriminator given field =
      catalog.resolveField entry discriminator given field := by
    intro given field
    obtain ⟨identity, decl, file, index⟩ := entry
    obtain ⟨identity', decl', file', index'⟩ := entry'
    cases hentry
    unfold resolveField
    rw [h.resolveType]
  induction fields generalizing given with
  | nil => rfl
  | cons field rest ih =>
    unfold Catalog.resolveFields
    simp only [hfield, ih]

/-- Catalogues that find the same resolve every message in the same way. -/
theorem Like.resolve (identity : Identity) (discriminator : String) :
    catalog'.resolve identity discriminator = catalog.resolve identity discriminator := by
  have hfound := h.message identity
  unfold Catalog.resolve Catalog.message
  rw [h.name]
  rcases hentry : catalog.message? identity with _ | entry <;> rw [hentry] at hfound
  · rw [Option.map_none, Option.map_eq_none_iff] at hfound
    rw [hfound]
    rfl
  · rw [Option.map_some] at hfound
    obtain ⟨entry', hentry', hunplaced⟩ := Option.map_eq_some_iff.1 hfound
    rw [hentry']
    simp only [bind, Except.bind, h.resolveFields hunplaced]
    obtain ⟨identity, decl, file, index⟩ := entry
    obtain ⟨identity', decl', file', index'⟩ := entry'
    cases hunplaced
    rfl

end Resolving

end Catalog

end ProtoClass
