import ProtoClass.Proofs.Naming.Property
import ProtoClass.Proofs.Schema.Catalog
import ProtoClass.Resolution.Message
import ProtoClass.Symbol.Table

/-!
# What resolving a message gives

A message of a catalogue is resolved exactly if the type names of all its fields are (`resolve_spec`).  The resolved
fields stand for the declared ones in order, and no member of a oneof is called like the discriminator
(`ResolvedFrom`); the resolved oneofs are the declared ones (`find?_resolveOneofs`).
-/

namespace ProtoClass

section Except

variable {ε α β : Type} {result : Except ε α} {f : α → β}

theorem map_eq_ok {b : β} : result.map f = .ok b ↔ ∃ a, result = .ok a ∧ f a = b := by
  cases result <;> simp [Except.map]

theorem map_eq_error {e : ε} : result.map f = .error e ↔ result = .error e := by
  cases result <;> simp [Except.map]

theorem toOption_eq_some {a : α} : result.toOption = some a ↔ result = .ok a := by
  cases result <;> simp [Except.toOption]

end Except

section Forall₂

variable {α β : Type} {R : α → β → Prop} {as : List α} {bs : List β}

theorem exists_left_of_forall₂ (h : List.Forall₂ R as bs) {b : β} (hb : b ∈ bs) : ∃ a ∈ as, R a b := by
  induction h with
  | nil => cases hb
  | @cons a b' as bs hab _ ih =>
    rcases List.mem_cons.1 hb with rfl | hb
    · exact ⟨a, List.mem_cons_self, hab⟩
    · obtain ⟨a', ha', hr⟩ := ih hb
      exact ⟨a', List.mem_cons_of_mem _ ha', hr⟩

theorem exists_right_of_forall₂ (h : List.Forall₂ R as bs) {a : α} (ha : a ∈ as) : ∃ b ∈ bs, R a b :=
  exists_left_of_forall₂ h.flip ha

theorem forall₂_and_mem_right (h : List.Forall₂ R as bs) : List.Forall₂ (fun a b => R a b ∧ b ∈ bs) as bs :=
  ((List.forall₂_and_left _ _).2 ⟨fun _ hb => hb, h.flip⟩).flip.imp fun _ _ hab => hab.symm

theorem forall₂_trans {γ : Type} {S : β → γ → Prop} {T : α → γ → Prop} {cs : List γ} (h : List.Forall₂ R as bs)
    (h' : List.Forall₂ S bs cs) (htrans : ∀ a b c, R a b → S b c → T a c) : List.Forall₂ T as cs := by
  induction h generalizing cs with
  | nil =>
    cases h'
    exact List.Forall₂.nil
  | cons hab _ ih =>
    cases h' with
    | cons hbc hrest => exact List.Forall₂.cons (htrans _ _ _ hab hbc) (ih hrest)

theorem pairwise_of_forall₂ {S : α → α → Prop} {T : β → β → Prop} (h : List.Forall₂ R as bs) (has : as.Pairwise S)
    (himp : ∀ a ∈ as, ∀ a' ∈ as, ∀ b b', R a b → R a' b' → S a a' → T b b') : bs.Pairwise T := by
  induction h with
  | nil => exact List.Pairwise.nil
  | @cons a b as bs hab hrest ih =>
    obtain ⟨hfirst, hothers⟩ := List.pairwise_cons.1 has
    refine List.pairwise_cons.2 ⟨fun b' hb' => ?_, ih hothers fun x hx y hy => ?_⟩
    · obtain ⟨a', ha', hab'⟩ := exists_left_of_forall₂ hrest hb'
      exact himp a List.mem_cons_self a' (List.mem_cons_of_mem _ ha') b b' hab hab' (hfirst a' ha')
    · exact himp x (List.mem_cons_of_mem _ hx) y (List.mem_cons_of_mem _ hy)

end Forall₂

namespace ResolvedType

/-- The symbols that a type refers to. -/
def keys : ResolvedType → List SymbolKey
  | scalar _ => []
  | enum identity => [⟨identity, .enum⟩]
  | message identity => [⟨identity, .message⟩]
  | map _ value => value.keys
  | group _ => []

end ResolvedType

namespace Catalog

variable {catalog : Catalog} {entry : Entry MessageDecl} {discriminator : String}

/-! ### Types -/

theorem resolveType_enum (catalog : Catalog) (scope : Identity) (name : String) :
    catalog.resolveType scope (.enum name) = (catalog.resolveEnum scope name).map .enum := by
  unfold resolveType
  cases catalog.resolveEnum scope name <;> rfl

theorem resolveType_message (catalog : Catalog) (scope : Identity) (name : String) :
    catalog.resolveType scope (.message name) = (catalog.resolveMessage scope name).map .message := by
  unfold resolveType
  cases catalog.resolveMessage scope name <;> rfl

theorem resolveType_map (catalog : Catalog) (scope : Identity) (key : Scalar) (value : FieldType) :
    catalog.resolveType scope (.map key value) = (catalog.resolveType scope value).map (.map key) := by
  rw [resolveType]
  cases catalog.resolveType scope value <;> rfl

/-- The file that declares what a symbol stands for. -/
def DeclaredIn (catalog : Catalog) (file : String) (key : SymbolKey) : Prop :=
  match key.kind with
  | .enum => ∃ entry ∈ catalog.enums, entry.identity = key.identity ∧ entry.file.name = file
  | .message | .constructorClass =>
    ∃ entry ∈ catalog.messages, entry.identity = key.identity ∧ entry.file.name = file

/-- The symbols that a field type refers to from inside `scope`. -/
def keysOf (catalog : Catalog) (scope : Identity) : FieldType → List SymbolKey
  | .scalar _ | .group _ => []
  | .enum name => (catalog.resolveEnum scope name).toOption.toList.map (⟨·, .enum⟩)
  | .message name => (catalog.resolveMessage scope name).toOption.toList.map (⟨·, .message⟩)
  | .map _ value => catalog.keysOf scope value

/-- The symbols that a field type refers to are in the catalogue. -/
theorem declaredIn_of_mem_keysOf {scope : Identity} {type : FieldType} {key : SymbolKey}
    (h : key ∈ catalog.keysOf scope type) : ∃ file, catalog.DeclaredIn file key := by
  induction type with
  | scalar kind => cases h
  | enum name =>
    obtain ⟨identity, hidentity, rfl⟩ := List.mem_map.1 h
    obtain ⟨entry, hentry, rfl⟩ :=
      exists_enum_of_resolveEnum (toOption_eq_some.1 (Option.mem_toList.1 hidentity))
    exact ⟨entry.file.name, entry, hentry, rfl, rfl⟩
  | message name =>
    obtain ⟨identity, hidentity, rfl⟩ := List.mem_map.1 h
    obtain ⟨entry, hentry, rfl⟩ :=
      exists_message_of_resolveMessage (toOption_eq_some.1 (Option.mem_toList.1 hidentity))
    exact ⟨entry.file.name, entry, hentry, rfl, rfl⟩
  | map key value ih => exact ih h
  | group name => cases h

/-- Resolving a type keeps the symbols that it refers to. -/
theorem keys_of_resolveType {scope : Identity} {type : FieldType} {resolved : ResolvedType}
    (h : catalog.resolveType scope type = .ok resolved) : resolved.keys = catalog.keysOf scope type := by
  induction type generalizing resolved with
  | scalar kind =>
    cases h
    rfl
  | enum name =>
    rw [resolveType_enum] at h
    obtain ⟨identity, hidentity, rfl⟩ := map_eq_ok.1 h
    simp [ResolvedType.keys, keysOf, toOption_eq_some.2 hidentity]
  | message name =>
    rw [resolveType_message] at h
    obtain ⟨identity, hidentity, rfl⟩ := map_eq_ok.1 h
    simp [ResolvedType.keys, keysOf, toOption_eq_some.2 hidentity]
  | map key value ih =>
    rw [resolveType_map] at h
    obtain ⟨inner, hinner, rfl⟩ := map_eq_ok.1 h
    show inner.keys = catalog.keysOf scope value
    exact ih hinner
  | group name =>
    cases h
    rfl

theorem resolveType_error {scope : Identity} {type : FieldType} {e : GenError}
    (h : catalog.resolveType scope type = .error e) : ∃ text, e = .unknownType text := by
  induction type with
  | scalar kind => cases h
  | enum name =>
    rw [resolveType_enum, map_eq_error] at h
    exact resolveName_error h
  | message name =>
    rw [resolveType_message, map_eq_error] at h
    exact resolveName_error h
  | map key value ih =>
    rw [resolveType_map, map_eq_error] at h
    exact ih h
  | group name => cases h

/-! ### Fields -/

/-- A resolved field stands for a declared one. -/
structure ResolvedFrom (catalog : Catalog) (scope : Identity) (discriminator : String) (field : FieldDecl)
    (resolved : ResolvedField) : Prop where
  type : catalog.resolveType scope field.type = .ok resolved.type
  tag : resolved.tag = field.number
  name : resolved.name = field.name
  oneof : resolved.oneof = field.memberOf
  clear : resolved.oneof ≠ none → resolved.localName ≠ discriminator

theorem resolveField_of_type {given : PropertyNames} {field : FieldDecl} {type : ResolvedType}
    (h : catalog.resolveType entry.identity field.type = .ok type) :
    ∃ resolved given', resolveField catalog entry discriminator given field = .ok (resolved, given') ∧
      ResolvedFrom catalog entry.identity discriminator field resolved := by
  let names := (given.claimOneof entry.decl field.memberOf).names
  let reserved := field.memberOf.map fun _ => discriminator
  -- the discriminator is reserved for a member, and an allocated name is not reserved
  have hclear : field.memberOf ≠ none → (names.allocate field.name reserved).1 ≠ discriminator := by
    intro hmember heq
    obtain ⟨oneof, honeof⟩ := Option.ne_none_iff_exists'.1 hmember
    have hfree := names.allocate_not_mem field.name reserved
    rw [heq] at hfree
    exact hfree (by simp [reserved, honeof])
  unfold resolveField
  rw [h]
  exact ⟨_, _, rfl, h, rfl, rfl, rfl, hclear⟩

/-- Fields are resolved if their types are; the first one whose type is not makes the error. -/
theorem resolveFields_spec (catalog : Catalog) (entry : Entry MessageDecl) (discriminator : String)
    (given : PropertyNames) (fields : List FieldDecl) :
    match resolveFields catalog entry discriminator given fields with
    | .ok (resolved, _) => List.Forall₂ (ResolvedFrom catalog entry.identity discriminator) fields resolved
    | .error e => (∃ text, e = .unknownType text) ∧
        ∃ field ∈ fields, ∀ type, catalog.resolveType entry.identity field.type ≠ .ok type := by
  induction fields generalizing given with
  | nil => exact List.Forall₂.nil
  | cons field rest ih =>
    unfold resolveFields
    rcases htype : catalog.resolveType entry.identity field.type with error | type
    · unfold resolveField
      rw [htype]
      exact ⟨resolveType_error htype, field, List.mem_cons_self, by simp [htype]⟩
    · obtain ⟨resolved, given₁, hfield, hfrom⟩ := resolveField_of_type htype
      have hrest := ih given₁
      rw [hfield]
      simp only [bind, Except.bind]
      rcases hrun : resolveFields catalog entry discriminator given₁ rest with error | ⟨others, given₂⟩ <;>
        rw [hrun] at hrest
      · obtain ⟨htext, f, hf, hbad⟩ := hrest
        exact ⟨htext, f, List.mem_cons_of_mem _ hf, hbad⟩
      · exact List.Forall₂.cons hfrom hrest

/-- What holds of each field and what it is resolved to holds of all of them, in order. -/
theorem forall₂_of_resolveFields {good : FieldDecl → ResolvedField → Prop}
    (hfield : ∀ {given given' field resolved},
      resolveField catalog entry discriminator given field = .ok (resolved, given') → good field resolved)
    {given given' : PropertyNames} {fields : List FieldDecl} {resolved : List ResolvedField}
    (h : resolveFields catalog entry discriminator given fields = .ok (resolved, given')) :
    List.Forall₂ good fields resolved := by
  induction fields generalizing given resolved with
  | nil =>
    cases h
    exact List.Forall₂.nil
  | cons field rest ih =>
    unfold resolveFields at h
    rcases hfirst : resolveField catalog entry discriminator given field with e | ⟨first, given₁⟩ <;>
      simp only [hfirst, bind, Except.bind] at h
    · cases h
    rcases hrest : resolveFields catalog entry discriminator given₁ rest with e | ⟨others, given₂⟩ <;>
      simp only [hrest] at h
    · cases h
    cases h
    exact List.Forall₂.cons (hfield hfirst) (ih hrest)

/-! ### Whole messages -/

/-- A resolved message stands for an entry of the catalogue. -/
structure IsResolved (catalog : Catalog) (entry : Entry MessageDecl) (discriminator : String)
    (message : ResolvedMessage) : Prop where
  identity : message.identity = entry.identity
  fields : List.Forall₂ (ResolvedFrom catalog entry.identity discriminator) entry.decl.fields message.fields
  oneofs : ∃ given, message.oneofs = resolveOneofs message.fields given entry.decl.oneofs

/-- A message of the catalogue is resolved if the types of all its fields are, and otherwise a type is not known. -/
theorem resolve_spec (hcatalog : catalog.Coherent) (hentry : entry ∈ catalog.messages) (discriminator : String) :
    match catalog.resolve entry.identity discriminator with
    | .ok message => IsResolved catalog entry discriminator message
    | .error e => (∃ text, e = .unknownType text) ∧
        ∃ field ∈ entry.decl.fields, ∀ type, catalog.resolveType entry.identity field.type ≠ .ok type := by
  have hmessage : catalog.message entry.identity = .ok entry := by
    unfold message
    rw [message?_of_mem hcatalog hentry]
  have hfields := resolveFields_spec catalog entry discriminator {} entry.decl.fields
  unfold resolve
  simp only [hmessage, bind, Except.bind]
  rcases hrun : resolveFields catalog entry discriminator {} entry.decl.fields with error | ⟨fields, given⟩ <;>
    rw [hrun] at hfields
  · exact hfields
  · exact ⟨rfl, hfields, given, rfl⟩

/-- The same of the fields of a message. -/
theorem forall₂_of_resolve {good : FieldDecl → ResolvedField → Prop} {message : ResolvedMessage}
    (hfield : ∀ {given given' field resolved},
      resolveField catalog entry discriminator given field = .ok (resolved, given') → good field resolved)
    (hcatalog : catalog.Coherent) (hentry : entry ∈ catalog.messages)
    (h : catalog.resolve entry.identity discriminator = .ok message) :
    List.Forall₂ good entry.decl.fields message.fields := by
  unfold resolve Catalog.message at h
  simp only [message?_of_mem hcatalog hentry, bind, Except.bind] at h
  rcases hfields : resolveFields catalog entry discriminator {} entry.decl.fields with e | ⟨fields, given⟩ <;>
    simp only [hfields] at h <;> cases h
  exact forall₂_of_resolveFields hfield hfields

/-- The oneofs of a resolved message are those declared, by name, and each lists the numbers of its members. -/
theorem find?_resolveOneofs (fields : List ResolvedField) (given : PropertyNames) (oneofs : List OneofDecl)
    (name : String) :
    (oneofs.find? (·.name == name) = none ∧ (resolveOneofs fields given oneofs).find? (·.name == name) = none) ∨
      ∃ decl o, oneofs.find? (·.name == name) = some decl ∧
        (resolveOneofs fields given oneofs).find? (·.name == name) = some o ∧ o.name = name ∧
        o.members = (fields.filter (·.oneof == some name)).map (·.tag) := by
  induction oneofs generalizing given with
  | nil => exact Or.inl ⟨rfl, rfl⟩
  | cons oneof rest ih =>
    unfold resolveOneofs
    by_cases hname : oneof.name = name
    · right
      split <;> simp [hname]
    · split
      · simpa [hname] using ih given
      · simpa [hname] using ih _

end Catalog

end ProtoClass
