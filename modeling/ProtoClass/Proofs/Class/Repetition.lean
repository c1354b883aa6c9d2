import ProtoClass.Proofs.Class.Placement

/-!
# Where a class shows that a field is repeated

A class shows the value of a field as a parameter of its own (`ClassDecl.ownTypes`) or in a case of a oneof
(`ClassDecl.caseTypes`).  Property names are different within a message, so that a name leads back to its field.

* As a parameter of its own, a repeated field has an array around its values, and no other field has
  (`fieldParam_ranked`).
* In a case of a oneof no type is an array, whatever the label of the member (`oneofParam_ranked`).

So the class keeps the repetition of all fields but the repeated members of oneofs
(`repetition_kept_outside_oneofs`).
-/

namespace ProtoClass

open TypeScript (TypeExpr)

/-- How many arrays are around a value. -/
def TypeScript.TypeExpr.rank : TypeExpr → Nat
  | .array element => element.rank + 1
  | _ => 0

def FieldType.isMap : FieldType → Bool
  | map _ _ => true
  | _ => false

/-- A field that holds a list of values; the entries of a map are no list, however the field is labelled. -/
def FieldDecl.holdsMany (field : FieldDecl) : Bool :=
  field.label == .repeated && !field.type.isMap

/-! ### The types that a class shows -/

/-- The property of a case and its type. -/
def Variant.value? : Variant → Option (String × TypeExpr)
  | member _ localName type _ => some (localName, type)
  | empty => none

/-- The property of a field that has the parameter for itself, and its type. -/
def Param.ownTypes (param : Param) : List (String × TypeExpr) :=
  match param.source with
  | .field _ => [(param.name, param.type)]
  | .oneof _ => []

/-- The properties in the cases of a oneof, and their types. -/
def Param.caseTypes (param : Param) : List (String × TypeExpr) :=
  match param.source with
  | .field _ => []
  | .oneof union => union.variants.filterMap Variant.value?

def ClassDecl.ownTypes (decl : ClassDecl) : List (String × TypeExpr) :=
  decl.params.flatMap Param.ownTypes

def ClassDecl.caseTypes (decl : ClassDecl) : List (String × TypeExpr) :=
  decl.params.flatMap Param.caseTypes

/-! ### Resolved fields -/

/-- What a declared field is resolved to. -/
structure FieldDecl.Gives (field : FieldDecl) (resolved : ResolvedField) : Prop where
  tag : resolved.tag = field.number
  name : resolved.name = field.name
  oneof : resolved.oneof = field.memberOf
  repeated : resolved.repeated = field.holdsMany

namespace Catalog

variable {catalog : Catalog} {entry : Entry MessageDecl} {discriminator : String}

theorem isMap_of_resolveType {scope : Identity} {type : FieldType} {resolved : ResolvedType}
    (h : catalog.resolveType scope type = .ok resolved) : resolved.isMap = type.isMap := by
  cases type with
  | scalar kind =>
    cases h
    rfl
  | enum name =>
    rw [resolveType_enum] at h
    obtain ⟨identity, _, rfl⟩ := map_eq_ok.1 h
    rfl
  | message name =>
    rw [resolveType_message] at h
    obtain ⟨identity, _, rfl⟩ := map_eq_ok.1 h
    rfl
  | map key value =>
    rw [resolveType_map] at h
    obtain ⟨inner, _, rfl⟩ := map_eq_ok.1 h
    rfl
  | group name =>
    cases h
    rfl

theorem resolveField_gives {given given' : PropertyNames} {field : FieldDecl} {resolved : ResolvedField}
    (h : resolveField catalog entry discriminator given field = .ok (resolved, given')) : field.Gives resolved := by
  unfold resolveField at h
  rcases htype : catalog.resolveType entry.identity field.type with e | type <;> rw [htype] at h <;> cases h
  have hrepeated : (field.label == .repeated && !type.isMap) = field.holdsMany := by
    rw [isMap_of_resolveType htype]
    rfl
  exact ⟨rfl, rfl, rfl, hrepeated⟩

end Catalog

/-! ### The types of parameters -/

/-- What the parameter at the place of a field shows: the field alone, with an array if it is repeated, or cases
without arrays. -/
def Param.RankedAt (field : ResolvedField) (param : Param) : Prop :=
  match field.oneof with
  | none => param.caseTypes = [] ∧
      ∃ type, param.ownTypes = [(field.localName, type)] ∧ type.rank = field.repeated.toNat
  | some _ => param.ownTypes = [] ∧ ∀ value ∈ param.caseTypes, value.2.rank = 0

theorem Param.rankedAt_of_none {field : ResolvedField} {param : Param} (h : field.oneof = none) :
    param.RankedAt field ↔ param.caseTypes = [] ∧
      ∃ type, param.ownTypes = [(field.localName, type)] ∧ type.rank = field.repeated.toNat := by
  unfold RankedAt
  rw [h]

theorem Param.rankedAt_of_some {field : ResolvedField} {param : Param} {oneof : String}
    (h : field.oneof = some oneof) :
    param.RankedAt field ↔ param.ownTypes = [] ∧ ∀ value ∈ param.caseTypes, value.2.rank = 0 := by
  unfold RankedAt
  rw [h]

theorem Scalar.rank_type (form : LongForm) (kind : Scalar) : (kind.type form).rank = 0 := by
  cases kind <;> cases form <;> rfl

namespace TypeContext

variable (context : TypeContext)

theorem elementType_ranked (message : Identity) (field : ResolvedField) (type : ResolvedType) :
    Gen.Makes (context.elementType message field type) fun made => made.rank = 0 := by
  cases type with
  | scalar kind => exact Gen.Makes.pure (kind.rank_type _)
  | enum identity => exact (Gen.Makes.anything _).bind fun name _ => Gen.Makes.pure rfl
  | message identity => exact (Gen.Makes.anything _).bind fun name _ => Gen.Makes.pure rfl
  | map key value => exact Gen.Makes.throw
  | group name => exact Gen.Makes.throw

theorem baseType_ranked (message : Identity) (field : ResolvedField) :
    Gen.Makes (context.baseType message field) fun made => made.rank = 0 := by
  unfold baseType
  split
  · exact (Gen.Makes.anything _).bind fun types _ => Gen.Makes.pure rfl
  · exact context.elementType_ranked message field field.type

/-- The array around a repeated field is the only one. -/
theorem fieldType_ranked (message : Identity) (field : ResolvedField) :
    Gen.Makes (context.fieldType message field) fun made => made.rank = field.repeated.toNat := by
  refine (context.baseType_ranked message field).bind fun base hbase => Gen.Makes.pure ?_
  cases field.repeated with
  | false => exact hbase
  | true => exact congrArg (· + 1) hbase

theorem memberVariant_ranked (group : OneofGroup) (member : ResolvedField) :
    Gen.Makes (context.memberVariant group member) fun variant => ∀ value, variant.value? = some value →
      value.2.rank = 0 := by
  unfold memberVariant
  split
  · exact Gen.Makes.throw
  · refine (context.baseType_ranked group.message member).bind fun type htype => Gen.Makes.pure ?_
    rintro _ ⟨⟩
    exact htype

theorem oneofUnion_ranked (group : OneofGroup) :
    Gen.Makes (context.oneofUnion group) fun union =>
      ∀ value ∈ union.variants.filterMap Variant.value?, value.2.rank = 0 := by
  have hmembers := Gen.Makes.mapM fun member (_ : member ∈ group.members) => context.memberVariant_ranked group member
  refine hmembers.bind fun cases hcases => Gen.Makes.pure fun value hvalue => ?_
  obtain ⟨variant, hvariant, hshown⟩ := List.mem_filterMap.1 hvalue
  rcases List.mem_append.1 hvariant with hcase | hempty
  · obtain ⟨_, _, hranked⟩ := exists_left_of_forall₂ hcases hcase
    exact hranked value hshown
  · obtain rfl := List.mem_singleton.1 hempty
    cases hshown

variable (message : ResolvedMessage) (source : MessageDecl)

theorem fieldParam_ranked (decl : FieldDecl) {field : ResolvedField} (hfield : field.oneof = none) :
    Gen.Makes (context.fieldParam message decl field) (Param.RankedAt field) := by
  refine (context.fieldType_ranked message.identity field).bind fun type htype => Gen.Makes.pure ?_
  exact (Param.rankedAt_of_none hfield).2 ⟨rfl, type, rfl, htype⟩

theorem oneofParam_ranked {field : ResolvedField} {oneof : String} (hfield : field.oneof = some oneof) :
    Gen.Makes (context.oneofParam message source field oneof) (Param.RankedAt field) := by
  refine (Gen.Makes.anything _).bind fun group _ => ?_
  split
  · exact Gen.Makes.throw
  · refine (context.oneofUnion_ranked group).bind fun union hunion => Gen.Makes.pure ?_
    exact (Param.rankedAt_of_some hfield).2 ⟨rfl, hunion⟩

theorem classDecl_ranked :
    Gen.Makes (context.classDecl message source) fun decl =>
      List.Forall₂ Param.RankedAt (ResolvedField.heads [] message.fields) decl.params := by
  refine (Gen.Makes.anything _).bind fun name _ => Gen.Makes.bind ?_ fun params hparams => Gen.Makes.pure hparams
  exact context.params_makes_each message source (fun _ => context.fieldParam_ranked message _)
    (context.oneofParam_ranked message source) [] message.fields

end TypeContext

/-! ### From the types of a class back to the fields -/

namespace ResolvedField

/-- A field outside of all oneofs has its own place, and a oneof with a member has one. -/
theorem exists_head (done : List String) {fields : List ResolvedField} {field : ResolvedField}
    (hfield : field ∈ fields) (hopen : ∀ oneof ∈ done, field.oneof ≠ some oneof) :
    ∃ head ∈ heads done fields, head.oneof = field.oneof ∧ (field.oneof = none → head = field) := by
  induction fields generalizing done with
  | nil => cases hfield
  | cons first rest ih =>
    unfold heads
    rcases hfirst : first.oneof with _ | oneof
    · rcases List.mem_cons.1 hfield with rfl | hrest
      · exact ⟨field, List.mem_cons_self, rfl, fun _ => rfl⟩
      · obtain ⟨head, hhead, hsame⟩ := ih done hrest hopen
        exact ⟨head, List.mem_cons_of_mem _ hhead, hsame⟩
    · dsimp only
      by_cases hdone : done.contains oneof = true
      · rw [if_pos hdone]
        refine ih done ((List.mem_cons.1 hfield).resolve_left ?_) hopen
        rintro rfl
        exact hopen oneof (by simpa using hdone) hfirst
      · rw [if_neg hdone]
        by_cases hsame : field.oneof = some oneof
        · -- the first member of the oneof stands for all of them
          exact ⟨first, List.mem_cons_self, hfirst.trans hsame.symm, by simp [hsame]⟩
        · have hrest : field ∈ rest := by
            refine (List.mem_cons.1 hfield).resolve_left ?_
            rintro rfl
            exact hsame hfirst
          obtain ⟨head, hhead, hfound⟩ := ih (oneof :: done) hrest (List.forall_mem_cons.2 ⟨hsame, hopen⟩)
          exact ⟨head, List.mem_cons_of_mem _ hhead, hfound⟩

end ResolvedField

namespace ClassDecl

variable {message : ResolvedMessage} {decl : ClassDecl}
  (h : List.Forall₂ Param.RankedAt (ResolvedField.heads [] message.fields) decl.params)

include h

theorem exists_field_of_ownType {name : String} {type : TypeExpr} (htype : (name, type) ∈ decl.ownTypes) :
    ∃ field ∈ message.fields, field.localName = name ∧ field.oneof = none ∧ type.rank = field.repeated.toNat := by
  obtain ⟨param, hparam, hshown⟩ := List.mem_flatMap.1 htype
  obtain ⟨field, hhead, hranked⟩ := exists_left_of_forall₂ h hparam
  rcases hfield : field.oneof with _ | oneof
  · obtain ⟨_, own, hown, hrank⟩ := (Param.rankedAt_of_none hfield).1 hranked
    rw [hown] at hshown
    obtain ⟨rfl, rfl⟩ := Prod.mk.inj (List.mem_singleton.1 hshown)
    exact ⟨field, (ResolvedField.heads_sublist [] message.fields).subset hhead, rfl, hfield, hrank⟩
  · rw [((Param.rankedAt_of_some hfield).1 hranked).1] at hshown
    cases hshown

theorem exists_ownType_of_field {field : ResolvedField} (hmem : field ∈ message.fields)
    (hfield : field.oneof = none) : ∃ type, (field.localName, type) ∈ decl.ownTypes := by
  obtain ⟨head, hhead, _, hsame⟩ := ResolvedField.exists_head [] hmem (by simp)
  obtain rfl := hsame hfield
  obtain ⟨param, hparam, hranked⟩ := exists_right_of_forall₂ h hhead
  obtain ⟨_, type, hown, _⟩ := (Param.rankedAt_of_none hfield).1 hranked
  exact ⟨type, List.mem_flatMap.2 ⟨param, hparam, by simp [hown]⟩⟩

theorem rank_of_caseType {value : String × TypeExpr} (hvalue : value ∈ decl.caseTypes) : value.2.rank = 0 := by
  obtain ⟨param, hparam, hshown⟩ := List.mem_flatMap.1 hvalue
  obtain ⟨field, _, hranked⟩ := exists_left_of_forall₂ h hparam
  rcases hfield : field.oneof with _ | oneof
  · rw [((Param.rankedAt_of_none hfield).1 hranked).1] at hshown
    cases hshown
  · exact ((Param.rankedAt_of_some hfield).1 hranked).2 value hshown

end ClassDecl

/-! ### The cases of a oneof -/

theorem Variant.map_value?_of_isCaseOf {members : List ResolvedField} {cases : List Variant}
    (h : List.Forall₂ IsCaseOf members cases) :
    (cases.filterMap value?).map (·.1) = members.map (·.localName) := by
  induction h with
  | nil => rfl
  | cons hcase _ ih =>
    obtain ⟨type, rfl⟩ := hcase
    simp [value?, ih]

section Members

variable {catalog : Catalog} {entry : Entry MessageDecl} {discriminator tagName : String} {message : ResolvedMessage}
  {decl : ClassDecl} (hresolved : Catalog.IsResolved catalog entry discriminator message)
  (htags : message.MembersKeepTags)

include hresolved htags

/-- The parameter of a oneof has a case for each member. -/
theorem Param.map_caseTypes_of_standsAt {field : ResolvedField} {oneof : String} {param : Param}
    (hfield : field.oneof = some oneof) (h : param.StandsAt tagName message entry.decl field) :
    param.caseTypes.map (·.1) = (message.membersOf oneof).map (·.localName) := by
  unfold StandsAt at h
  rw [hfield] at h
  obtain ⟨group, _, union, hgroup, _, hunion, rfl⟩ := h
  rcases hresolved.group_spec htags hfield with ⟨_, hmissing⟩ | ⟨_, localName, _, hfound⟩
  · rw [hgroup] at hmissing
    cases hmissing
  rw [hgroup] at hfound
  cases hfound
  obtain ⟨cases, hcases, hvariants⟩ := hunion.variants
  show (union.variants.filterMap Variant.value?).map (·.1) = _
  rw [hvariants, List.filterMap_append, List.map_append, Variant.map_value?_of_isCaseOf hcases]
  simp [Variant.value?, ResolvedMessage.membersOf]

variable (hstands : List.Forall₂ (Param.StandsAt tagName message entry.decl) (ResolvedField.heads [] message.fields)
  decl.params)

include hstands

theorem ClassDecl.exists_caseType_of_member {member : ResolvedField} (hmem : member ∈ message.fields)
    (hmember : member.oneof ≠ none) : ∃ type, (member.localName, type) ∈ decl.caseTypes := by
  obtain ⟨oneof, honeof⟩ := Option.ne_none_iff_exists'.1 hmember
  obtain ⟨head, hhead, hsame, _⟩ := ResolvedField.exists_head [] hmem (by simp)
  obtain ⟨param, hparam, hstand⟩ := exists_right_of_forall₂ hstands hhead
  have hnames := Param.map_caseTypes_of_standsAt hresolved htags (hsame.trans honeof) hstand
  have hname : member.localName ∈ param.caseTypes.map (·.1) := by
    rw [hnames]
    exact List.mem_map_of_mem (List.mem_filter.2 ⟨hmem, by simp [honeof]⟩)
  obtain ⟨⟨_, type⟩, hvalue, rfl⟩ := List.mem_map.1 hname
  exact ⟨type, List.mem_flatMap.2 ⟨param, hparam, hvalue⟩⟩

theorem ClassDecl.exists_member_of_caseType {name : String} {type : TypeExpr} (hvalue : (name, type) ∈ decl.caseTypes) :
    ∃ member ∈ message.fields, member.localName = name ∧ member.oneof ≠ none := by
  obtain ⟨param, hparam, hshown⟩ := List.mem_flatMap.1 hvalue
  obtain ⟨head, _, hstand⟩ := exists_left_of_forall₂ hstands hparam
  rcases hhead : head.oneof with _ | oneof
  · unfold Param.StandsAt at hstand
    rw [hhead] at hstand
    obtain ⟨_, _, _, rfl⟩ := hstand
    cases hshown
  · have hname : name ∈ param.caseTypes.map (·.1) := List.mem_map_of_mem hshown
    rw [Param.map_caseTypes_of_standsAt hresolved htags hhead hstand] at hname
    obtain ⟨member, hmember, rfl⟩ := List.mem_map.1 hname
    obtain ⟨hmem, honeof⟩ := List.mem_filter.1 hmember
    exact ⟨member, hmem, rfl, by simp [beq_iff_eq.1 honeof]⟩

end Members

/-! ### Repetition kept and lost -/

/-- Wherever the class shows the property, the type is an array if the field holds many values, and none if not. -/
def ClassDecl.KeepsRepetition (decl : ClassDecl) (field : FieldDecl) (name : String) : Prop :=
  ∀ type, (name, type) ∈ decl.ownTypes ∨ (name, type) ∈ decl.caseTypes → type.rank = field.holdsMany.toNat

/-- How a class shows a declared field under its property name. -/
structure ClassDecl.ShowsField (decl : ClassDecl) (source : MessageDecl) (field : FieldDecl) (name : String) :
    Prop where
  alone : (∃ type, (name, type) ∈ decl.ownTypes) ↔ field.memberOf = none
  own : ∀ type, (name, type) ∈ decl.ownTypes → type.rank = field.holdsMany.toNat
  inCases : ∀ type, (name, type) ∈ decl.caseTypes → type.rank = 0
  kept : source.MembersKeepNumbers →
    (decl.KeepsRepetition field name ↔ (field.holdsMany = true → field.memberOf = none))

theorem ClassDecl.showsField {catalog : Catalog} {entry : Entry MessageDecl} {discriminator tagName : String}
    {message : ResolvedMessage} {decl : ClassDecl} {field : FieldDecl} {resolved : ResolvedField}
    (hresolved : Catalog.IsResolved catalog entry discriminator message)
    (hnames : (message.fields.map (·.localName)).Nodup)
    (hstands : List.Forall₂ (Param.StandsAt tagName message entry.decl) (ResolvedField.heads [] message.fields)
      decl.params)
    (hranked : List.Forall₂ Param.RankedAt (ResolvedField.heads [] message.fields) decl.params)
    (hgives : field.Gives resolved) (hmem : resolved ∈ message.fields) :
    decl.ShowsField entry.decl field resolved.localName := by
  -- the property name belongs to no other field
  have hsame : ∀ other ∈ message.fields, other.localName = resolved.localName → other = resolved :=
    fun other hother heq => List.inj_on_of_nodup_map hnames hother hmem heq
  have hown : ∀ type, (resolved.localName, type) ∈ decl.ownTypes →
      resolved.oneof = none ∧ type.rank = resolved.repeated.toNat := by
    intro type htype
    obtain ⟨other, hother, hname, honeof, hrank⟩ := exists_field_of_ownType hranked htype
    obtain rfl := hsame other hother hname
    exact ⟨honeof, hrank⟩
  have hcase : ∀ type, (resolved.localName, type) ∈ decl.caseTypes → type.rank = 0 :=
    fun type htype => rank_of_caseType hranked htype
  rw [hgives.repeated, hgives.oneof] at hown
  refine ⟨⟨?_, ?_⟩, fun type htype => (hown type htype).2, hcase, fun hnumbers => ⟨?_, ?_⟩⟩
  · rintro ⟨type, htype⟩
    exact (hown type htype).1
  · intro halone
    exact exists_ownType_of_field hranked hmem (hgives.oneof.trans halone)
  · -- the case of a repeated member is no array
    intro hkeeps hmany
    by_contra hmember
    rw [← hgives.oneof] at hmember
    have htags := hresolved.membersKeepTags hnumbers
    obtain ⟨type, htype⟩ := exists_caseType_of_member hresolved htags hstands hmem hmember
    have hrank := hkeeps type (Or.inr htype)
    rw [hcase type htype, hmany] at hrank
    cases hrank
  · rintro halone type (htype | htype)
    · exact (hown type htype).2
    · -- only members have cases, so that the field does not hold many values
      have htags := hresolved.membersKeepTags hnumbers
      obtain ⟨member, hmember, hname, honeof⟩ := exists_member_of_caseType hresolved htags hstands htype
      obtain rfl := hsame member hmember hname
      rw [hgives.oneof] at honeof
      have hfew : field.holdsMany = false := by
        by_contra hmany
        exact honeof (halone (by simpa using hmany))
      rw [hcase type htype, hfew]
      rfl

/-- In the class made of a message, a field outside of all oneofs has a parameter of its own, whose type is an array if
the field is repeated and not a map, and is none otherwise; a member of a oneof has none.  In the cases of oneofs no
type is an array.  So, if members of oneofs keep their numbers, the class shows as arrays just the fields that hold
many values, but for those that are members of oneofs. -/
theorem repetition_kept_outside_oneofs (schema : Schema) (discriminator : String) (context : TypeContext)
    (entry : Entry MessageDecl) (message : ResolvedMessage) (table table' : SymbolTable) (decl : ClassDecl)
    (hentry : entry ∈ (Catalog.ofSchema schema).messages)
    (hmessage : (Catalog.ofSchema schema).resolve entry.identity discriminator = .ok message)
    (hdecl : (context.classDecl message entry.decl).run table = (.ok decl, table')) :
    (message.fields.map (·.localName)).Nodup ∧
      List.Forall₂ (fun field resolved =>
        field.Gives resolved ∧ decl.ShowsField entry.decl field resolved.localName)
        entry.decl.fields message.fields := by
  have hcatalog := Catalog.coherent_ofSchema schema
  have hresolved := Catalog.resolve_spec hcatalog hentry discriminator
  rw [hmessage] at hresolved
  have hnames := Catalog.resolve_localNames_nodup hmessage
  have hgives := Catalog.forall₂_of_resolve Catalog.resolveField_gives hcatalog hentry hmessage
  obtain ⟨_, _, hstands⟩ := context.classDecl_makes message entry.decl table decl table' hdecl
  have hranked := context.classDecl_ranked message entry.decl table decl table' hdecl
  refine ⟨hnames, (forall₂_and_mem_right hgives).imp fun field resolved hfield => ?_⟩
  exact ⟨hfield.1, ClassDecl.showsField hresolved hnames hstands hranked hfield.1 hfield.2⟩

/-- Fields of all sorts with the label of repeated ones, outside of a oneof and in it, and some without. -/
def Schema.bundled : Schema where
  files := [{ name := "bundle.proto"
              messages :=
                [{ name := "Bundle"
                   fields :=
                     [{ name := "labels", number := 1, label := .repeated, type := .scalar .string },
                      { name := "codes", number := 2, label := .repeated, type := .scalar .int64,
                        oneof := some "item" },
                      { name := "title", number := 3, type := .scalar .string },
                      { name := "parts", number := 4, label := .repeated, type := .message "Bundle" },
                      { name := "counts", number := 5, label := .repeated,
                        type := .map .string (.scalar .int32) },
                      { name := "code", number := 6, type := .scalar .int64, oneof := some "item" }]
                   oneofs := [{ name := "item" }] }] }]

theorem repetition_kept_outside_oneofs_bundled :
    ∃ entry ∈ (Catalog.ofSchema .bundled).messages, entry.decl.MembersKeepNumbers ∧
      ∃ message, (Catalog.ofSchema .bundled).resolve entry.identity "kind" = .ok message ∧
      ∃ table decl table', (TypeContext.classDecl ⟨.table, {}⟩ message entry.decl).run table = (.ok decl, table') ∧
        decl.ownTypes.map (Prod.map id TypeExpr.rank) =
          [("labels", 1), ("title", 0), ("parts", 1), ("counts", 0)] ∧
        decl.caseTypes.map (Prod.map id TypeExpr.rank) = [("codes", 0), ("code", 0)] ∧
        (message.fields.map (·.localName)).Nodup ∧
        List.Forall₂ (fun field resolved =>
          field.Gives resolved ∧ decl.ShowsField entry.decl field resolved.localName)
          entry.decl.fields message.fields := by
  let table : SymbolTable :=
    { symbols := [⟨"BundleClass", "BundleClass", ⟨"Bundle"⟩, "bundle.proto", .constructorClass⟩,
                  ⟨"Bundle", "Bundle", ⟨"Bundle"⟩, "bundle.proto", .message⟩] }
  have hmade : ∃ entry ∈ (Catalog.ofSchema .bundled).messages, entry.decl.MembersKeepNumbers ∧
      (((Catalog.ofSchema .bundled).resolve entry.identity "kind").toOption.bind fun message =>
        ((TypeContext.classDecl ⟨.table, {}⟩ message entry.decl).run table).1.toOption.bind fun decl =>
          some (decl.ownTypes.map (Prod.map id TypeExpr.rank), decl.caseTypes.map (Prod.map id TypeExpr.rank))) =
        some ([("labels", 1), ("title", 0), ("parts", 1), ("counts", 0)], [("codes", 0), ("code", 0)]) := by
    decide +kernel
  obtain ⟨entry, hentry, hnumbers, hfound⟩ := hmade
  obtain ⟨message, hmessage, hfound⟩ := Option.bind_eq_some_iff.1 hfound
  obtain ⟨decl, hdecl, hfound⟩ := Option.bind_eq_some_iff.1 hfound
  obtain ⟨hown, hcases⟩ := Prod.mk.inj (Option.some.inj hfound)
  rw [toOption_eq_some] at hmessage hdecl
  have hrun : (TypeContext.classDecl ⟨.table, {}⟩ message entry.decl).run table = (.ok decl, _) := Prod.ext hdecl rfl
  exact ⟨entry, hentry, hnumbers, message, hmessage, table, decl, _, hrun, hown, hcases,
    repetition_kept_outside_oneofs .bundled "kind" ⟨.table, {}⟩ entry message table _ decl hentry hmessage hrun⟩

/-- A oneof with a repeated member. -/
def Schema.tagged : Schema where
  files := [{ name := "m.proto"
              messages :=
                [{ name := "M"
                   fields := [{ name := "tags", number := 1, label := .repeated, type := .scalar .string,
                                oneof := some "o" }]
                   oneofs := [{ name := "o" }] }] }]

/-- The class of a message with a repeated member of a oneof shows a single value for it. -/
theorem repetition_lost_in_oneof :
    ∃ entry ∈ (Catalog.ofSchema .tagged).messages, ∃ field ∈ entry.decl.fields, field.holdsMany = true ∧
      ∃ message, (Catalog.ofSchema .tagged).resolve entry.identity "kind" = .ok message ∧
      message.fields.map (·.localName) = ["tags"] ∧
      ∃ table decl table', (TypeContext.classDecl ⟨.table, {}⟩ message entry.decl).run table = (.ok decl, table') ∧
        decl.caseTypes.map (Prod.map id TypeExpr.rank) = [("tags", 0)] ∧
        ¬decl.KeepsRepetition field "tags" := by
  let table : SymbolTable := { symbols := [⟨"MClass", "MClass", ⟨"M"⟩, "m.proto", .constructorClass⟩] }
  have hmade : ∃ entry ∈ (Catalog.ofSchema .tagged).messages, entry.decl.fields.any (·.holdsMany) = true ∧
      (((Catalog.ofSchema .tagged).resolve entry.identity "kind").toOption.bind fun message =>
        ((TypeContext.classDecl ⟨.table, {}⟩ message entry.decl).run table).1.toOption.bind fun decl =>
          some (message.fields.map (·.localName), decl.caseTypes.map (Prod.map id TypeExpr.rank))) =
        some (["tags"], [("tags", 0)]) := by
    decide +kernel
  obtain ⟨entry, hentry, hany, hfound⟩ := hmade
  obtain ⟨field, hfield, hmany⟩ := List.any_eq_true.1 hany
  obtain ⟨message, hmessage, hfound⟩ := Option.bind_eq_some_iff.1 hfound
  obtain ⟨decl, hdecl, hfound⟩ := Option.bind_eq_some_iff.1 hfound
  obtain ⟨hnames, hranks⟩ := Prod.mk.inj (Option.some.inj hfound)
  rw [toOption_eq_some] at hmessage hdecl
  refine ⟨entry, hentry, field, hfield, hmany, message, hmessage, hnames, table, decl, _, Prod.ext hdecl rfl, hranks,
    fun hkeeps => ?_⟩
  have hcase : ("tags", 0) ∈ decl.caseTypes.map (Prod.map id TypeExpr.rank) := by simp [hranks]
  obtain ⟨⟨name, type⟩, htype, hvalue⟩ := List.mem_map.1 hcase
  obtain ⟨rfl, hrank⟩ := Prod.mk.inj hvalue
  have hkept : type.rank = field.holdsMany.toNat := hkeeps type (Or.inr htype)
  rw [show type.rank = 0 from hrank, hmany] at hkept
  cases hkept

end ProtoClass
