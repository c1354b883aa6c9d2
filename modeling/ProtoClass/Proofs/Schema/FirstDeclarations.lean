import Mathlib.Data.List.Forall2
import ProtoClass.Proofs.Schema.Order
import ProtoClass.Proofs.Schema.Permutation
import ProtoClass.Proofs.Schema.Places

/-!
# The first declaration under every identity

An identity can be declared at several places of a schema.  The catalogue goes through the schema once and keeps, of
each sort, what it meets first (`mem_firstByKey_iff_isFirst`).  So it lists exactly the declarations at the first places
of their identities, in the order of these places, and names an identity after the first place at which anything is
declared under it (`catalog_keeps_first`).
-/

namespace ProtoClass

/-! ### The first elements of a list in order -/

section FirstByKey

variable {α β κ : Type} [DecidableEq κ] {key : α → κ} {l : List α}

theorem eq_or_before_of_mem_firstByKey {before : α → α → Prop} {a b : α} (h : l.Pairwise before)
    (ha : a ∈ firstByKey key l) (hb : b ∈ l) (hkey : key b = key a) : b = a ∨ before a b := by
  induction l with
  | nil => cases hb
  | cons first rest ih =>
    obtain ⟨hfirst, hrest⟩ := List.pairwise_cons.1 h
    rcases List.mem_cons.1 ha with rfl | ha
    · rcases List.mem_cons.1 hb with rfl | hb
      · exact Or.inl rfl
      · exact Or.inr (hfirst b hb)
    · obtain ⟨ha, hne⟩ := List.mem_filter.1 ha
      rcases List.mem_cons.1 hb with rfl | hb
      · simp [hkey] at hne
      · exact ih hrest ha hb

/-- What is made of elements has the first ones where the elements have them. -/
theorem forall₂_firstByKey_filterMap {f : α → Option β} {key' : β → κ} (h : ∀ a b, f a = some b → key' b = key a)
    (l : List α) :
    List.Forall₂ (fun a b => f a = some b) (firstByKey key (l.filter fun a => (f a).isSome))
      (firstByKey key' (l.filterMap f)) := by
  induction l with
  | nil => exact List.Forall₂.nil
  | cons a rest ih =>
    rcases hf : f a with _ | b
    · rw [List.filter_cons_of_neg (by simp [hf]), List.filterMap_cons_none hf]
      exact ih
    · rw [List.filter_cons_of_pos (by simp [hf]), List.filterMap_cons_some hf]
      refine List.Forall₂.cons hf (List.rel_filter (fun a' b' hf' => ?_) ih)
      simp only [h a b hf, h a' b' hf']

/-- A value is looked up under the first element with the key. -/
theorem lookup_map_eq_some_iff {value : α → β} {k : κ} {v : β} :
    (l.map fun a => (key a, value a)).lookup k = some v ↔ ∃ a ∈ firstByKey key l, key a = k ∧ value a = v := by
  induction l with
  | nil => simp [firstByKey]
  | cons first rest ih =>
    rw [List.map_cons, List.lookup_cons]
    by_cases hk : k = key first
    · simp only [hk, beq_self_eq_true, Option.some.injEq]
      constructor
      · exact fun hv => ⟨first, List.mem_cons_self, rfl, hv⟩
      · rintro ⟨a, ha, hkey, hv⟩
        rcases List.mem_cons.1 ha with rfl | ha
        · exact hv
        · simp [hkey] at ha
    · simp only [beq_false_of_ne hk]
      rw [ih]
      constructor
      · rintro ⟨a, ha, rfl, hv⟩
        exact ⟨a, List.mem_cons_of_mem _ (List.mem_filter.2 ⟨ha, by simpa using hk⟩), rfl, hv⟩
      · rintro ⟨a, ha, rfl, hv⟩
        rcases List.mem_cons.1 ha with rfl | ha
        · exact absurd rfl hk
        · exact ⟨a, (List.mem_filter.1 ha).1, rfl, hv⟩

end FirstByKey

/-! ### First places -/

/-- The entry for a declaration, if it is of the sort that `pick` picks. -/
def Occurrence.entry {α : Type} (pick : DeclaredItem → Option α) (occurrence : Occurrence) : Option (Entry α) :=
  (pick occurrence.item).map fun decl => ⟨occurrence.identity, decl, occurrence.file, occurrence.fileIndex⟩

namespace Schema

variable {schema : Schema} {found : List (List Nat × Occurrence)}

/-- The first place at which something of a sort is declared under its identity. -/
structure IsFirst (schema : Schema) (sort : DeclaredItem → Bool) (place : List Nat) (occurrence : Occurrence) :
    Prop where
  declared : schema.declaredAt? place = some occurrence
  ofSort : sort occurrence.item = true
  first : ∀ place' other, schema.declaredAt? place' = some other → sort other.item = true →
    other.identity = occurrence.identity → ¬ place' < place

/-- Going through a schema and keeping what comes first is to keep what stands at first places. -/
theorem mem_firstByKey_iff_isFirst (h : schema.Lists found) (sort : DeclaredItem → Bool) (s : List Nat × Occurrence) :
    s ∈ firstByKey (·.2.identity) (found.filter fun s => sort s.2.item) ↔ schema.IsFirst sort s.1 s.2 := by
  have hmem : ∀ s, s ∈ found.filter (fun s => sort s.2.item) ↔
      schema.declaredAt? s.1 = some s.2 ∧ sort s.2.item = true := by
    intro s
    rw [List.mem_filter, h.mem_iff]
  have hsorted := h.sorted.filter fun s => sort s.2.item
  constructor
  · intro hs
    obtain ⟨hdeclared, hsort⟩ := (hmem s).1 (mem_of_mem_firstByKey hs)
    refine ⟨hdeclared, hsort, fun place' other hother hsort' hidentity hlt => ?_⟩
    have hmem' := (hmem (place', other)).2 ⟨hother, hsort'⟩
    rcases eq_or_before_of_mem_firstByKey hsorted hs hmem' hidentity with rfl | hlt'
    · exact List.lt_irrefl _ hlt
    · exact List.lt_asymm hlt hlt'
  · intro hfirst
    have hs := (hmem s).2 ⟨hfirst.declared, hfirst.ofSort⟩
    obtain ⟨s', hs', hidentity⟩ : ∃ s' ∈ firstByKey (·.2.identity) (found.filter fun s => sort s.2.item),
        s'.2.identity = s.2.identity := exists_mem_firstByKey hs
    rcases eq_or_before_of_mem_firstByKey hsorted hs' hs hidentity.symm with rfl | hlt
    · exact hs'
    · obtain ⟨hdeclared, hsort⟩ := (hmem s').1 (mem_of_mem_firstByKey hs')
      exact absurd hlt (hfirst.first s'.1 s'.2 hdeclared hsort hidentity)

/-- The entries are those at the first places of their identities, in the order of the places, and no identity is
missing or repeated. -/
structure ListsFirst {α : Type} (schema : Schema) (pick : DeclaredItem → Option α) (entries : List (Entry α)) :
    Prop where
  inOrder : ∃ places, places.Pairwise (· < ·) ∧
    List.Forall₂ (fun place entry => ∃ occurrence, schema.IsFirst (fun item => (pick item).isSome) place occurrence ∧
      occurrence.entry pick = some entry) places entries
  distinct : (entries.map (·.identity)).Nodup
  complete : ∀ place occurrence, schema.declaredAt? place = some occurrence → (pick occurrence.item).isSome = true →
    occurrence.identity ∈ entries.map (·.identity)

theorem listsFirst_firstByKey {α : Type} (h : schema.Lists found) (pick : DeclaredItem → Option α) :
    schema.ListsFirst pick (firstByKey (·.identity) (found.filterMap fun s => s.2.entry pick)) where
  inOrder := by
    have hentry : ∀ (s : List Nat × Occurrence) (entry : Entry α), s.2.entry pick = some entry →
        entry.identity = s.2.identity := by
      intro s entry hentry
      obtain ⟨decl, _, rfl⟩ := Option.map_eq_some_iff.1 hentry
      rfl
    have hsort : (fun s : List Nat × Occurrence => (s.2.entry pick).isSome) = fun s => (pick s.2.item).isSome := by
      funext s
      exact Option.isSome_map ..
    have hfirsts := forall₂_firstByKey_filterMap hentry found
    rw [hsort] at hfirsts
    refine ⟨(firstByKey (·.2.identity) (found.filter fun s => (pick s.2.item).isSome)).map Prod.fst, ?_, ?_⟩
    · exact List.pairwise_map.2 ((h.sorted.filter _).sublist (firstByKey_sublist _))
    · rw [List.forall₂_map_left_iff]
      refine ((List.forall₂_and_left _ _).2 ⟨fun s hs => ?_, hfirsts⟩).imp fun s entry hs => ⟨s.2, hs⟩
      exact (mem_firstByKey_iff_isFirst h _ s).1 hs
  distinct := List.pairwise_map.2 (firstByKey_pairwise _)
  complete place occurrence hdeclared hsort := by
    obtain ⟨decl, hdecl⟩ := Option.isSome_iff_exists.1 hsort
    have hentry : occurrence.entry pick = some ⟨occurrence.identity, decl, occurrence.file, occurrence.fileIndex⟩ := by
      rw [Occurrence.entry, hdecl, Option.map_some]
    have hmem : ⟨occurrence.identity, decl, occurrence.file, occurrence.fileIndex⟩ ∈
        found.filterMap fun s => s.2.entry pick :=
      List.mem_filterMap.2 ⟨(place, occurrence), (h.mem_iff _ _).2 hdeclared, hentry⟩
    exact List.mem_map.2 (exists_mem_firstByKey hmem)

end Schema

namespace Catalog

variable {schema : Schema} {found : List (List Nat × Occurrence)}

/-- The catalogue of a schema: the messages and the enums at the first places of their identities, found under these,
and each identity named after the first place at which a message or an enum is declared under it. -/
structure KeepsFirst (catalog : Catalog) (schema : Schema) : Prop where
  messages : schema.ListsFirst DeclaredItem.message? catalog.messages
  enums : schema.ListsFirst DeclaredItem.enum? catalog.enums
  message : ∀ identity entry,
    catalog.message identity = .ok entry ↔ entry ∈ catalog.messages ∧ entry.identity = identity
  enum : ∀ identity entry, catalog.enum identity = .ok entry ↔ entry ∈ catalog.enums ∧ entry.identity = identity
  name : ∀ identity name, catalog.name? identity = some name ↔
    ∃ place occurrence, schema.IsFirst (fun _ => true) place occurrence ∧ occurrence.identity = identity ∧
      Text.joinWith "_" occurrence.path = name
  named : ∀ identity, (catalog.name? identity).isSome = true ↔
    identity ∈ catalog.messages.map (·.identity) ∨ identity ∈ catalog.enums.map (·.identity)

theorem message_eq_ok {catalog : Catalog} {identity : Identity} {entry : Entry MessageDecl} :
    catalog.message identity = .ok entry ↔ catalog.message? identity = some entry := by
  unfold message
  cases catalog.message? identity <;> simp

theorem enum_eq_ok {catalog : Catalog} {identity : Identity} {entry : Entry EnumDecl} :
    catalog.enum identity = .ok entry ↔ catalog.enum? identity = some entry := by
  unfold enum
  cases catalog.enum? identity <;> simp

section Walk

variable (hdecls : (schema.files.zipIdx.flatMap fun item => item.1.declarations.map fun d => (item, d)) =
  found.map fun s => ((s.2.file, s.2.fileIndex), s.2.declaration))

include hdecls

theorem entriesOf_eq_filterMap {α : Type} (pick : DeclaredItem → Option α) :
    entriesOf pick schema.files = found.filterMap fun s => s.2.entry pick := by
  have hentries : entriesOf pick schema.files =
      (schema.files.zipIdx.flatMap fun item => item.1.declarations.map fun d => (item, d)).filterMap
        fun d => d.2.asEntry pick d.1.1 d.1.2 := by
    rw [List.filterMap_flatMap]
    refine List.flatMap_congr fun item _ => ?_
    rw [List.filterMap_map]
    rfl
  rw [hentries, hdecls, List.filterMap_map]
  rfl

theorem names_eq_map :
    (ofSchema schema).names = found.map fun s => (s.2.identity, Text.joinWith "_" s.2.path) := by
  have hnames : (ofSchema schema).names =
      (schema.files.zipIdx.flatMap fun item => item.1.declarations.map fun d => (item, d)).map
        fun d => (d.2.identity, nestedName d.2.path) := by
    rw [List.map_flatMap]
    conv_lhs => rw [ofSchema, ← List.zipIdx_map_fst 0 schema.files, List.flatMap_map]
    refine List.flatMap_congr fun item _ => ?_
    rw [List.map_map]
    rfl
  rw [hnames, hdecls, List.map_map]
  rfl

end Walk

/-- The catalogue of a schema keeps the first declaration under every identity. -/
theorem catalog_keeps_first (schema : Schema) : (ofSchema schema).KeepsFirst schema := by
  obtain ⟨found, hfound, hdecls⟩ := schema.exists_preorder
  have hcoherent := coherent_ofSchema schema
  have hmessages : schema.ListsFirst DeclaredItem.message? (ofSchema schema).messages := by
    rw [messages_eq_firstByKey, entriesOf_eq_filterMap hdecls]
    exact Schema.listsFirst_firstByKey hfound _
  have henums : schema.ListsFirst DeclaredItem.enum? (ofSchema schema).enums := by
    rw [enums_eq_firstByKey, entriesOf_eq_filterMap hdecls]
    exact Schema.listsFirst_firstByKey hfound _
  have hname : ∀ identity name, (ofSchema schema).name? identity = some name ↔
      ∃ place occurrence, schema.IsFirst (fun _ => true) place occurrence ∧ occurrence.identity = identity ∧
        Text.joinWith "_" occurrence.path = name := by
    intro identity name
    rw [name?, names_eq_map hdecls, lookup_map_eq_some_iff]
    have hfirst := Schema.mem_firstByKey_iff_isFirst hfound fun _ => true
    rw [List.filter_true] at hfirst
    constructor
    · rintro ⟨s, hs, hrest⟩
      exact ⟨s.1, s.2, (hfirst s).1 hs, hrest⟩
    · rintro ⟨place, occurrence, hs, hrest⟩
      exact ⟨(place, occurrence), (hfirst _).2 hs, hrest⟩
  refine ⟨hmessages, henums, ?_, ?_, hname, fun identity => ⟨fun hsome => ?_, ?_⟩⟩
  · intro identity entry
    rw [message_eq_ok]
    exact find?_identity_eq_some_iff hcoherent.messages
  · intro identity entry
    rw [enum_eq_ok]
    exact find?_identity_eq_some_iff hcoherent.enums
  · obtain ⟨name, hsome⟩ := Option.isSome_iff_exists.1 hsome
    obtain ⟨place, occurrence, hfirst, rfl, _⟩ := (hname identity name).1 hsome
    cases hitem : occurrence.item with
    | message decl => exact Or.inl (hmessages.complete place occurrence hfirst.declared (by rw [hitem]; rfl))
    | enum decl => exact Or.inr (henums.complete place occurrence hfirst.declared (by rw [hitem]; rfl))
  · rintro (hmem | hmem)
    · obtain ⟨entry, hentry, rfl⟩ := List.mem_map.1 hmem
      exact Option.isSome_iff_exists.2 (hcoherent.messageNames entry hentry)
    · obtain ⟨entry, hentry, rfl⟩ := List.mem_map.1 hmem
      exact Option.isSome_iff_exists.2 (hcoherent.enumNames entry hentry)

-- a message that is declared again counts no more, but what is new inside it does
example : (ofSchema ⟨[{ name := "a", messages := [{ name := "M", messages := [{ name := "Old" }] }] },
      { name := "b", messages := [{ name := "M", messages := [{ name := "New" }] }] }]⟩).messages.map
        (fun entry => (entry.identity.name, entry.file.name)) = [("M", "a"), ("M.Old", "a"), ("M.New", "b")] := by
  decide

end Catalog

end ProtoClass
