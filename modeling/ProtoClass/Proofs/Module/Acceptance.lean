import ProtoClass.Proofs.Class.Params
import ProtoClass.Proofs.Module.Reserve

/-!
# Which declarations are accepted

A field is accepted if its type is one that code can hold, with all names declared, and if it names a oneof of its
message where it names one.  This is about the declarations alone (`Catalog.Accepts`).

* The class of a message is made exactly if all its fields are accepted, and shows them all (`classOf_refers`).
* So are the enums and classes of a file, which declare or refer to the symbols in `Catalog.fileKeys` and to no others
  (`fileDecls_refers`).
-/

namespace ProtoClass

open SymbolTable

namespace Catalog

variable {catalog : Catalog} {scope : Identity}

/-- A type of values: a scalar, or the name of an enum or message that is known inside `scope`. -/
def AcceptsElement (catalog : Catalog) (scope : Identity) : FieldType → Prop
  | .scalar _ => True
  | .enum name => ∃ entry ∈ catalog.enums, catalog.resolveEnum scope name = .ok entry.identity
  | .message name => ∃ entry ∈ catalog.messages, catalog.resolveMessage scope name = .ok entry.identity
  | .map _ _ | .group _ => False

/-- A type that a field can have: a type of values, or a map to one under keys that maps can have. -/
def AcceptsType (catalog : Catalog) (scope : Identity) : FieldType → Prop
  | .map key value => key.isMapKey = true ∧ catalog.AcceptsElement scope value
  | type => catalog.AcceptsElement scope type

/-- A field that code can hold.  A field with the `optional` keyword of the third dialect may name any oneof. -/
def Accepts (catalog : Catalog) (entry : Entry MessageDecl) (field : FieldDecl) : Prop :=
  catalog.AcceptsType entry.identity field.type ∧
    ∀ oneof, field.oneof = some oneof → field.proto3Optional = false → ∃ o ∈ entry.decl.oneofs, o.name = oneof

private theorem exists_enum_iff {name : String} :
    (∃ entry ∈ catalog.enums, catalog.resolveEnum scope name = .ok entry.identity) ↔
      ∃ identity, catalog.resolveEnum scope name = .ok identity := by
  refine ⟨fun ⟨entry, _, hname⟩ => ⟨entry.identity, hname⟩, fun ⟨identity, hname⟩ => ?_⟩
  obtain ⟨entry, hentry, rfl⟩ := exists_enum_of_resolveEnum hname
  exact ⟨entry, hentry, hname⟩

private theorem exists_message_iff {name : String} :
    (∃ entry ∈ catalog.messages, catalog.resolveMessage scope name = .ok entry.identity) ↔
      ∃ identity, catalog.resolveMessage scope name = .ok identity := by
  refine ⟨fun ⟨entry, _, hname⟩ => ⟨entry.identity, hname⟩, fun ⟨identity, hname⟩ => ?_⟩
  obtain ⟨entry, hentry, rfl⟩ := exists_message_of_resolveMessage hname
  exact ⟨entry, hentry, hname⟩

private theorem acceptsElement_iff {type : FieldType} :
    catalog.AcceptsElement scope type ↔
      ∃ resolved, catalog.resolveType scope type = .ok resolved ∧ resolved.IsElement := by
  cases type with
  | scalar kind => simp [AcceptsElement, resolveType, ResolvedType.IsElement]
  | enum name => simp [AcceptsElement, resolveType_enum, map_eq_ok, exists_enum_iff, ResolvedType.IsElement]
  | message name => simp [AcceptsElement, resolveType_message, map_eq_ok, exists_message_iff, ResolvedType.IsElement]
  | map key value => simp [AcceptsElement, resolveType_map, map_eq_ok, ResolvedType.IsElement]
  | group name => simp [AcceptsElement, resolveType, ResolvedType.IsElement]

/-- A type is accepted if it resolves to one that code can hold. -/
theorem acceptsType_iff {type : FieldType} :
    catalog.AcceptsType scope type ↔
      ∃ resolved, catalog.resolveType scope type = .ok resolved ∧ resolved.Supported := by
  cases type with
  | map key value =>
    simp only [AcceptsType, resolveType_map, map_eq_ok, acceptsElement_iff]
    constructor
    · rintro ⟨hkey, inner, hinner, helement⟩
      exact ⟨_, ⟨inner, hinner, rfl⟩, hkey, helement⟩
    · rintro ⟨_, ⟨inner, hinner, rfl⟩, hkey, helement⟩
      exact ⟨hkey, inner, hinner, helement⟩
  | scalar kind => simp [AcceptsType, AcceptsElement, resolveType, ResolvedType.Supported, ResolvedType.IsElement]
  | enum name =>
    simp [AcceptsType, AcceptsElement, resolveType_enum, map_eq_ok, exists_enum_iff, ResolvedType.Supported,
      ResolvedType.IsElement]
  | message name =>
    simp [AcceptsType, AcceptsElement, resolveType_message, map_eq_ok, exists_message_iff, ResolvedType.Supported,
      ResolvedType.IsElement]
  | group name => simp [AcceptsType, AcceptsElement, resolveType, ResolvedType.Supported, ResolvedType.IsElement]

/-- A field is accepted if the field it resolves to fits into the class. -/
theorem accepts_iff_fits {entry : Entry MessageDecl} {discriminator : String} {field : FieldDecl}
    {resolved : ResolvedField} (h : ResolvedFrom catalog entry.identity discriminator field resolved) :
    catalog.Accepts entry field ↔ entry.decl.Fits resolved := by
  unfold Accepts MessageDecl.Fits MessageDecl.oneof?
  rw [acceptsType_iff, h.oneof, h.type]
  refine and_congr (by simp) (forall_congr' fun oneof => ?_)
  rw [← Option.isSome_iff_exists, List.find?_isSome]
  cases hoptional : field.proto3Optional with
  | true => simp [FieldDecl.memberOf, hoptional]
  | false => simp [FieldDecl.memberOf, hoptional]

/-! ### Making one class -/

/-- The fields of a message, each with the symbols that its type refers to. -/
def fieldKeys (catalog : Catalog) (entry : Entry MessageDecl) : List (UInt32 × List SymbolKey) :=
  entry.decl.fields.map fun field => (field.number, catalog.keysOf entry.identity field.type)

/-- The symbols that the class of a message declares or refers to. -/
def classKeys (catalog : Catalog) (entry : Entry MessageDecl) : List SymbolKey :=
  ⟨entry.identity, .constructorClass⟩ :: (catalog.fieldKeys entry).flatMap Prod.snd

theorem declaredIn_of_mem_classKeys {entry : Entry MessageDecl} (hentry : entry ∈ catalog.messages) {key : SymbolKey}
    (h : key ∈ catalog.classKeys entry) : ∃ file, catalog.DeclaredIn file key := by
  rcases List.mem_cons.1 h with rfl | h
  · exact ⟨entry.file.name, entry, hentry, rfl, rfl⟩
  · simp only [fieldKeys, List.flatMap_map, List.mem_flatMap] at h
    obtain ⟨field, _, hkey⟩ := h
    exact declaredIn_of_mem_keysOf hkey

theorem IsResolved.forall_accepts_iff {entry : Entry MessageDecl} {discriminator : String} {message : ResolvedMessage}
    (h : IsResolved catalog entry discriminator message) :
    (∀ field ∈ message.fields, entry.decl.Fits field) ↔ ∀ field ∈ entry.decl.fields, catalog.Accepts entry field := by
  constructor
  · intro hfits field hfield
    obtain ⟨resolved, hresolved, hfrom⟩ := exists_right_of_forall₂ h.fields hfield
    exact (accepts_iff_fits hfrom).2 (hfits resolved hresolved)
  · intro haccepts resolved hresolved
    obtain ⟨field, hfield, hfrom⟩ := exists_left_of_forall₂ h.fields hresolved
    exact (accepts_iff_fits hfrom).1 (haccepts field hfield)

theorem IsResolved.fieldKeys_eq {entry : Entry MessageDecl} {discriminator : String} {message : ResolvedMessage}
    (h : IsResolved catalog entry discriminator message) :
    message.fields.map (fun field => (field.tag, field.type.keys)) = catalog.fieldKeys entry := by
  unfold fieldKeys
  have hfields := h.fields
  generalize entry.decl.fields = fields at hfields
  generalize message.fields = resolved at hfields
  induction hfields with
  | nil => rfl
  | cons hfrom _ ih => rw [List.map_cons, List.map_cons, ih, hfrom.tag, keys_of_resolveType hfrom.type]

/-- The class of a message is made exactly if all its fields are accepted. -/
theorem classOf_refers (hcatalog : catalog.Coherent) (context : TypeContext) {entry : Entry MessageDecl}
    (hentry : entry ∈ catalog.messages) (hnumbers : entry.decl.MembersKeepNumbers) :
    Gen.Refers context.scope (catalog.classOf context entry) (∀ field ∈ entry.decl.fields, catalog.Accepts entry field)
      (catalog.classKeys entry)
      fun names decl => decl.Shows names entry.identity (catalog.fieldKeys entry) := by
  have hresolve := resolve_spec hcatalog hentry context.config.discriminator
  unfold classOf
  rcases hrun : catalog.resolve entry.identity context.config.discriminator with e | message <;>
    rw [hrun] at hresolve
  · obtain ⟨htext, field, hfield, hbad⟩ := hresolve
    refine .throw (fun haccepts => ?_) (Or.inl htext)
    obtain ⟨resolved, hresolved, _⟩ := acceptsType_iff.1 (haccepts field hfield).1
    exact hbad resolved hresolved
  · show Gen.Refers _ (context.classDecl message entry.decl) _ _ _
    have hclass := TypeContext.classDecl_refers hresolve (hresolve.membersKeepTags hnumbers)
    rw [hresolve.identity, hresolve.fieldKeys_eq] at hclass
    refine hclass.imp hresolve.forall_accepts_iff ?_ fun _ _ hshows => hshows
    rw [classKeys, ← hresolve.fieldKeys_eq, List.flatMap_map]
    exact fun _ => Iff.rfl

/-! ### Making the declarations of a file -/

theorem namedEnum_refers (context : TypeContext) (entry : Entry EnumDecl) :
    Gen.Refers context.scope (namedEnum context entry) True [⟨entry.identity, .enum⟩]
      fun names enum => enum = ⟨entry.identity, names ⟨entry.identity, .enum⟩, entry.decl⟩ := by
  refine (Gen.Refers.resolve context.scope ⟨entry.identity, .enum⟩).returning ?_
  rintro names _ rfl
  rfl

theorem namedClass_refers (hcatalog : catalog.Coherent) (context : TypeContext) {entry : Entry MessageDecl}
    (hentry : entry ∈ catalog.messages) (hnumbers : entry.decl.MembersKeepNumbers) :
    Gen.Refers context.scope (catalog.namedClass context entry)
      (∀ field ∈ entry.decl.fields, catalog.Accepts entry field)
      (⟨entry.identity, .message⟩ :: catalog.classKeys entry)
      fun names named => named.typeName = names ⟨entry.identity, .message⟩ ∧
        named.decl.Shows names entry.identity (catalog.fieldKeys entry) := by
  refine ((classOf_refers hcatalog context hentry hnumbers).bind fun decl =>
    (Gen.Refers.resolve context.scope ⟨entry.identity, .message⟩).bind fun typeName =>
      Gen.Refers.pure context.scope (⟨typeName, decl⟩ : NamedClass)).imp (by simp) ?_ ?_
  · intro key
    simp [or_comm]
  · rintro names _ ⟨decl, hdecl, _, rfl, rfl⟩
    exact ⟨rfl, hdecl⟩

/-- The messages of the schema file with the given index. -/
def messagesOf (catalog : Catalog) (index : Nat) : List (Entry MessageDecl) :=
  catalog.messages.filter (·.fileIndex == index)

/-- The enums of the schema file with the given index. -/
def enumsOf (catalog : Catalog) (index : Nat) : List (Entry EnumDecl) :=
  catalog.enums.filter (·.fileIndex == index)

/-- The symbols that the code for a file declares or refers to. -/
def fileKeys (catalog : Catalog) (index : Nat) : List SymbolKey :=
  (catalog.enumsOf index).flatMap (fun entry => [⟨entry.identity, .enum⟩]) ++
    (catalog.messagesOf index).flatMap fun entry =>
      ⟨entry.identity, .message⟩ :: catalog.classKeys entry

theorem declaredIn_of_mem_fileKeys {index : Nat} {key : SymbolKey} (h : key ∈ catalog.fileKeys index) :
    ∃ file, catalog.DeclaredIn file key := by
  rcases List.mem_append.1 h with h | h
  · obtain ⟨entry, hentry, hkey⟩ := List.mem_flatMap.1 h
    obtain rfl := List.mem_singleton.1 hkey
    exact ⟨entry.file.name, entry, (List.mem_filter.1 hentry).1, rfl, rfl⟩
  · obtain ⟨entry, hentry, hkey⟩ := List.mem_flatMap.1 h
    have hmem := (List.mem_filter.1 hentry).1
    rcases List.mem_cons.1 hkey with rfl | hkey
    · exact ⟨entry.file.name, entry, hmem, rfl, rfl⟩
    · exact declaredIn_of_mem_classKeys hmem hkey

/-- The enums and classes of a file under given names. -/
structure FileShows (catalog : Catalog) (index : Nat) (names : SymbolKey → String) (enums : List NamedEnum)
    (classes : List NamedClass) : Prop where
  enums : List.Forall₂ (fun entry (enum : NamedEnum) =>
    enum = ⟨entry.identity, names ⟨entry.identity, .enum⟩, entry.decl⟩) (catalog.enumsOf index) enums
  classes : List.Forall₂ (fun entry (named : NamedClass) => named.typeName = names ⟨entry.identity, .message⟩ ∧
    named.decl.Shows names entry.identity (catalog.fieldKeys entry)) (catalog.messagesOf index) classes

theorem fileDecls_refers (hcatalog : catalog.Coherent)
    (hnumbers : ∀ entry ∈ catalog.messages, entry.decl.MembersKeepNumbers) (context : TypeContext) (index : Nat) :
    Gen.Refers context.scope (catalog.fileDecls context index)
      (∀ entry ∈ catalog.messagesOf index, ∀ field ∈ entry.decl.fields, catalog.Accepts entry field)
      (catalog.fileKeys index) fun names decls => catalog.FileShows index names decls.1 decls.2 := by
  have henums := Gen.Refers.mapM (catalog.enumsOf index) fun entry _ => namedEnum_refers context entry
  have hclasses := Gen.Refers.mapM (catalog.messagesOf index) fun entry hentry =>
    have hmem := (List.mem_filter.1 hentry).1
    namedClass_refers hcatalog context hmem (hnumbers entry hmem)
  refine (henums.bind fun enums => hclasses.bind fun classes =>
    Gen.Refers.pure context.scope (enums, classes)).imp (by simp) (by simp [fileKeys]) ?_
  rintro names _ ⟨enums, henums, classes, hclasses, rfl⟩
  exact ⟨henums, hclasses⟩

end Catalog

end ProtoClass
