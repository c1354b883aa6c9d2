import Mathlib.Data.List.Nodup
import ProtoClass.Proofs.Resolution.Message

/-!
# Property names of one message

While the fields of a message are resolved, every name that is given out is that of a field or of a oneof, and no name
is given out twice (`PropertyNames.Covers`).  A oneof without members gets its name after all fields.

* No two fields have one property name (`resolve_localNames_nodup`).
* No field has the property name of a oneof (`resolve_field_ne_oneof`).
* Oneofs of different names have different property names (`resolve_oneofs_apart`).

No property name is a reserved word, and no member of a oneof is called like the discriminator
(`property_names_apart`).
-/

namespace ProtoClass.Catalog

open TypeScript (isReserved)

variable {catalog : Catalog} {entry : Entry MessageDecl} {discriminator : String} {given given' : PropertyNames}
  {fields : List ResolvedField}

/-! ### Names given out to fields -/

/-- A oneof gets a name that is free, or nothing happens. -/
theorem PropertyNames.claimOneof_cases (given : PropertyNames) (message : MessageDecl) (oneof : Option String) :
    given.claimOneof message oneof = given ∨
      ∃ name, given.claimOneof message oneof =
        ⟨(given.names.allocate name none).2, given.oneofs ++ [(name, (given.names.allocate name none).1)]⟩ := by
  cases oneof with
  | none => exact Or.inl rfl
  | some name =>
    simp only [claimOneof]
    split
    · exact Or.inr ⟨name, rfl⟩
    · exact Or.inl rfl

/-- The names given out are different from each other and no reserved words, and they are the names of the given fields
and of the oneofs that have one. -/
structure PropertyNames.Covers (given : PropertyNames) (fields : List ResolvedField) : Prop where
  apart : given.names.Apart
  perm : given.names.used.Perm (fields.map (·.localName) ++ given.oneofs.map (·.2))

namespace PropertyNames.Covers

theorem empty : ({} : PropertyNames).Covers [] :=
  ⟨Naming.LocalNames.apart_empty, List.Perm.nil⟩

theorem claimOneof (h : given.Covers fields) (message : MessageDecl) (oneof : Option String) :
    (given.claimOneof message oneof).Covers fields := by
  rcases given.claimOneof_cases message oneof with hsame | ⟨name, hclaimed⟩
  · rwa [hsame]
  · rw [hclaimed]
    refine ⟨h.apart.allocate name none, ?_⟩
    rw [List.map_append, ← List.append_assoc]
    exact (h.perm.cons _).trans (List.perm_append_singleton _ _).symm

/-- One more field takes one more name. -/
theorem resolveField (h : given.Covers fields) {field : FieldDecl} {resolved : ResolvedField}
    (hfield : Catalog.resolveField catalog entry discriminator given field = .ok (resolved, given')) :
    given'.Covers (fields ++ [resolved]) := by
  have hclaimed := h.claimOneof entry.decl field.memberOf
  unfold Catalog.resolveField at hfield
  rcases htype : catalog.resolveType entry.identity field.type with e | type <;> rw [htype] at hfield
  · cases hfield
  · cases hfield
    refine ⟨hclaimed.apart.allocate _ _, ?_⟩
    rw [List.map_append, List.append_assoc]
    exact (hclaimed.perm.cons _).trans List.perm_middle.symm

theorem resolveFields (h : given.Covers fields) {decls : List FieldDecl} {resolved : List ResolvedField}
    (hfields : Catalog.resolveFields catalog entry discriminator given decls = .ok (resolved, given')) :
    given'.Covers (fields ++ resolved) := by
  induction decls generalizing given fields resolved with
  | nil =>
    cases hfields
    rwa [List.append_nil]
  | cons decl rest ih =>
    unfold Catalog.resolveFields at hfields
    rcases hfirst : Catalog.resolveField catalog entry discriminator given decl with e | ⟨first, given₁⟩ <;>
      rw [hfirst] at hfields
    · cases hfields
    rcases hrest : Catalog.resolveFields catalog entry discriminator given₁ rest with e | ⟨others, given₂⟩ <;>
      simp only [bind, Except.bind, hrest] at hfields
    · cases hfields
    cases hfields
    rw [List.append_cons]
    exact ih (h.resolveField hfirst) hrest

variable (h : given.Covers fields)

include h

theorem nodup : (fields.map (·.localName) ++ given.oneofs.map (·.2)).Nodup :=
  h.perm.nodup_iff.1 h.apart.nodup

theorem mem_used_of_field {field : ResolvedField} (hfield : field ∈ fields) : field.localName ∈ given.names.used :=
  h.perm.mem_iff.2 (List.mem_append_left _ (List.mem_map_of_mem hfield))

theorem mem_used_of_oneof {item : String × String} (hitem : item ∈ given.oneofs) : item.2 ∈ given.names.used :=
  h.perm.mem_iff.2 (List.mem_append_right _ (List.mem_map_of_mem hitem))

end PropertyNames.Covers

/-! ### Names given out to oneofs -/

theorem mem_of_lookup {entries : List (String × String)} {key value : String} (h : entries.lookup key = some value) :
    (key, value) ∈ entries := by
  obtain ⟨before, after, rfl, _⟩ := List.lookup_eq_some_iff.1 h
  simp

/-- A oneof has the name that was claimed for it at its first member, or one that was free. -/
def PropertyNames.Names (given : PropertyNames) (oneof : ResolvedOneof) : Prop :=
  given.oneofs.lookup oneof.name = some oneof.localName ∨
    oneof.localName ∉ given.names.used ∧ isReserved oneof.localName = false

theorem names_of_mem_resolveOneofs {oneofs : List OneofDecl} {oneof : ResolvedOneof}
    (h : oneof ∈ resolveOneofs fields given oneofs) : given.Names oneof := by
  induction oneofs generalizing given with
  | nil => cases h
  | cons decl rest ih =>
    unfold resolveOneofs at h
    split at h
    · rename_i localName hclaimed
      rcases List.mem_cons.1 h with rfl | h
      · exact Or.inl hclaimed
      · exact ih h
    · rcases List.mem_cons.1 h with rfl | h
      · exact Or.inr ⟨given.names.allocate_not_mem decl.name none, given.names.isReserved_allocate decl.name none⟩
      · rcases ih h with hclaimed | ⟨hfree, hreserved⟩
        · exact Or.inl hclaimed
        · exact Or.inr ⟨fun hused => hfree (List.mem_cons_of_mem _ hused), hreserved⟩

/-- Oneofs of different names have different property names: those claimed at a member are different, and a free one
is different from all names before it. -/
theorem resolveOneofs_pairwise (fields : List ResolvedField) (given : PropertyNames)
    (hnodup : (given.oneofs.map (·.2)).Nodup) (hused : ∀ item ∈ given.oneofs, item.2 ∈ given.names.used)
    (oneofs : List OneofDecl) :
    (resolveOneofs fields given oneofs).Pairwise fun o o' => o.name ≠ o'.name → o.localName ≠ o'.localName := by
  induction oneofs generalizing given with
  | nil => exact List.Pairwise.nil
  | cons decl rest ih =>
    unfold resolveOneofs
    split
    · rename_i localName hclaimed
      refine List.pairwise_cons.2 ⟨fun other hother hname heq => ?_, ih given hnodup hused⟩
      have hitem := mem_of_lookup hclaimed
      rcases names_of_mem_resolveOneofs hother with hclaimed' | ⟨hfree, _⟩
      · rw [← heq] at hclaimed'
        exact hname (congrArg Prod.fst (List.inj_on_of_nodup_map hnodup hitem (mem_of_lookup hclaimed') rfl))
      · exact hfree (heq ▸ hused _ hitem)
    · have hrest := ih ⟨(given.names.allocate decl.name none).2, given.oneofs⟩ hnodup fun item hitem =>
        List.mem_cons_of_mem _ (hused item hitem)
      refine List.pairwise_cons.2 ⟨fun other hother _ heq => ?_, hrest⟩
      have hfree : (given.names.allocate decl.name none).1 ∉ given.names.used :=
        given.names.allocate_not_mem decl.name none
      have heq : (given.names.allocate decl.name none).1 = other.localName := heq
      rcases names_of_mem_resolveOneofs hother with hclaimed | ⟨hfree', _⟩
      · rw [heq] at hfree
        exact hfree (hused _ (mem_of_lookup hclaimed))
      · rw [← heq] at hfree'
        exact hfree' List.mem_cons_self

theorem map_name_resolveOneofs (fields : List ResolvedField) (given : PropertyNames) (oneofs : List OneofDecl) :
    (resolveOneofs fields given oneofs).map (·.name) = oneofs.map (·.name) := by
  induction oneofs generalizing given with
  | nil => rfl
  | cons decl rest ih =>
    unfold resolveOneofs
    split
    · rw [List.map_cons, List.map_cons, ih]
    · rw [List.map_cons, List.map_cons, ih]

/-! ### Whole messages -/

variable {identity : Identity} {message : ResolvedMessage}

/-- What a resolved message is made of. -/
theorem resolve_eq_ok (h : catalog.resolve identity discriminator = .ok message) :
    ∃ entry given, catalog.message identity = .ok entry ∧
      catalog.resolveFields entry discriminator {} entry.decl.fields = .ok (message.fields, given) ∧
      message.oneofs = resolveOneofs message.fields given entry.decl.oneofs ∧ given.Covers message.fields := by
  unfold resolve at h
  rcases hentry : catalog.message identity with e | entry <;> simp only [bind, Except.bind, hentry] at h
  · cases h
  rcases hfields : catalog.resolveFields entry discriminator {} entry.decl.fields with e | ⟨fields, given⟩ <;>
    simp only [hfields] at h
  · cases h
  cases h
  exact ⟨entry, given, rfl, hfields, rfl, PropertyNames.Covers.empty.resolveFields hfields⟩

/-- No two fields of a message have one property name. -/
theorem resolve_localNames_nodup (h : catalog.resolve identity discriminator = .ok message) :
    (message.fields.map (·.localName)).Nodup := by
  obtain ⟨_, _, _, _, _, hcovers⟩ := resolve_eq_ok h
  exact (List.nodup_append.1 hcovers.nodup).1

/-- No field of a message has the property name of a oneof. -/
theorem resolve_field_ne_oneof (h : catalog.resolve identity discriminator = .ok message) {field : ResolvedField}
    {oneof : ResolvedOneof} (hfield : field ∈ message.fields) (honeof : oneof ∈ message.oneofs) :
    field.localName ≠ oneof.localName := by
  obtain ⟨_, given, _, _, honeofs, hcovers⟩ := resolve_eq_ok h
  rw [honeofs] at honeof
  rcases names_of_mem_resolveOneofs honeof with hclaimed | ⟨hfree, _⟩
  · have hdisjoint := (List.nodup_append.1 hcovers.nodup).2.2
    exact hdisjoint _ (List.mem_map_of_mem hfield) _ (List.mem_map_of_mem (mem_of_lookup hclaimed))
  · intro heq
    exact hfree (heq ▸ hcovers.mem_used_of_field hfield)

/-- Oneofs of different names have different property names. -/
theorem resolve_oneofs_apart (h : catalog.resolve identity discriminator = .ok message) {o o' : ResolvedOneof}
    (ho : o ∈ message.oneofs) (ho' : o' ∈ message.oneofs) (hname : o.name ≠ o'.name) : o.localName ≠ o'.localName := by
  obtain ⟨entry, given, _, _, honeofs, hcovers⟩ := resolve_eq_ok h
  have hpairwise := resolveOneofs_pairwise message.fields given (List.nodup_append.1 hcovers.nodup).2.1
    (fun _ => hcovers.mem_used_of_oneof) entry.decl.oneofs
  rw [← honeofs] at hpairwise
  have hflip : message.oneofs.Pairwise fun o o' => o'.name ≠ o.name → o'.localName ≠ o.localName :=
    hpairwise.imp fun hapart hne => (hapart hne.symm).symm
  exact hpairwise.forall_of_forall_of_flip (fun _ _ hne => absurd rfl hne) hflip ho ho' hname

theorem resolve_isReserved (h : catalog.resolve identity discriminator = .ok message) :
    (∀ field ∈ message.fields, isReserved field.localName = false) ∧
      ∀ oneof ∈ message.oneofs, isReserved oneof.localName = false := by
  obtain ⟨entry, given, _, _, honeofs, hcovers⟩ := resolve_eq_ok h
  refine ⟨fun field hfield => hcovers.apart.unreserved _ (hcovers.mem_used_of_field hfield), fun oneof honeof => ?_⟩
  rw [honeofs] at honeof
  rcases names_of_mem_resolveOneofs honeof with hclaimed | ⟨_, hreserved⟩
  · exact hcovers.apart.unreserved _ (hcovers.mem_used_of_oneof (mem_of_lookup hclaimed))
  · exact hreserved

/-- The fields and oneofs of a resolved message are those that its declaration has, in order. -/
structure StandsFor (decl : MessageDecl) (message : ResolvedMessage) : Prop where
  fields : List.Forall₂ (fun field resolved =>
    resolved.tag = field.number ∧ resolved.name = field.name ∧ resolved.oneof = field.memberOf)
    decl.fields message.fields
  oneofs : message.oneofs.map (·.name) = decl.oneofs.map (·.name)

/-- The property names of a message never clash. -/
structure NamesApart (discriminator : String) (message : ResolvedMessage) : Prop where
  fields : (message.fields.map (·.localName)).Nodup
  fromOneofs : ∀ field ∈ message.fields, ∀ oneof ∈ message.oneofs, field.localName ≠ oneof.localName
  oneofs : ∀ o ∈ message.oneofs, ∀ o' ∈ message.oneofs, o.name ≠ o'.name → o.localName ≠ o'.localName
  unreserved : (∀ field ∈ message.fields, isReserved field.localName = false) ∧
    ∀ oneof ∈ message.oneofs, isReserved oneof.localName = false
  clear : ∀ field ∈ message.fields, field.oneof ≠ none → field.localName ≠ discriminator

/-- In a message that is resolved, the property names of the fields are different from each other and from those of all
declared oneofs, oneofs of different names have different property names, no property name is a reserved word, and no
member of a oneof is called like the discriminator. -/
theorem property_names_apart (schema : Schema) (discriminator : String) (identity : Identity)
    (message : ResolvedMessage) (h : (Catalog.ofSchema schema).resolve identity discriminator = .ok message) :
    ∃ entry, (Catalog.ofSchema schema).message identity = .ok entry ∧ StandsFor entry.decl message ∧
      NamesApart discriminator message := by
  obtain ⟨entry, given, hentry, hfields, honeofs, _⟩ := resolve_eq_ok h
  have hfrom := resolveFields_spec (Catalog.ofSchema schema) entry discriminator {} entry.decl.fields
  rw [hfields] at hfrom
  refine ⟨entry, hentry, ⟨?_, ?_⟩, ⟨resolve_localNames_nodup h, ?_, ?_, resolve_isReserved h, ?_⟩⟩
  · exact hfrom.imp fun _ _ hstands => ⟨hstands.tag, hstands.name, hstands.oneof⟩
  · rw [honeofs, map_name_resolveOneofs]
  · intro field hfield oneof honeof
    exact resolve_field_ne_oneof h hfield honeof
  · intro o ho o' ho' hname
    exact resolve_oneofs_apart h ho ho' hname
  · intro field hfield hmember
    obtain ⟨_, _, hstands⟩ := exists_left_of_forall₂ hfrom hfield
    exact hstands.clear hmember

/-- Fields that are called alike once the words are joined, like a reserved word with and without its underscore, like
the discriminator, and like the oneofs; the last oneof has no members. -/
def crowded : Schema where
  files := [{ name := "crowd.proto"
              messages :=
                [{ name := "Crowd"
                   fields :=
                     [{ name := "foo_bar", number := 1, type := .scalar .int32 },
                      { name := "fooBar", number := 2, type := .scalar .int32 },
                      { name := "class", number := 3, type := .scalar .string },
                      { name := "kind", number := 4, type := .scalar .bool, oneof := some "class" },
                      { name := "note", number := 5, type := .scalar .bool, oneof := some "class" }]
                   oneofs := [{ name := "class" }, { name := "foo_bar" }] }] }]

theorem property_names_apart_crowded :
    ∃ message, (Catalog.ofSchema crowded).resolve ⟨"Crowd"⟩ "kind" = .ok message ∧
      message.fields.map (·.localName) = ["fooBar", "fooBar_", "class_", "kind_", "note"] ∧
      message.oneofs.map (·.localName) = ["class__", "fooBar__"] ∧
      ∃ entry, (Catalog.ofSchema crowded).message ⟨"Crowd"⟩ = .ok entry ∧ StandsFor entry.decl message ∧
        NamesApart "kind" message := by
  have hresolved : ((Catalog.ofSchema crowded).resolve ⟨"Crowd"⟩ "kind").toOption.map
      (fun message => (message.fields.map (·.localName), message.oneofs.map (·.localName))) =
        some (["fooBar", "fooBar_", "class_", "kind_", "note"], ["class__", "fooBar__"]) := by
    decide +kernel
  obtain ⟨message, hmessage, hnames⟩ := Option.map_eq_some_iff.1 hresolved
  rw [toOption_eq_some] at hmessage
  obtain ⟨hfields, honeofs⟩ := Prod.mk.inj hnames
  exact ⟨message, hmessage, hfields, honeofs, property_names_apart crowded "kind" ⟨"Crowd"⟩ message hmessage⟩

end ProtoClass.Catalog
