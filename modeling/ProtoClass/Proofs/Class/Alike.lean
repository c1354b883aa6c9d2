import ProtoClass.Module.Generator
import ProtoClass.Proofs.Symbol.Alike

/-!
# Classes that are the same but for names

A class of one message can be made in different scopes.  What comes out differs in the names of declared types and in
nothing else (`classDecl_alike`, `classOf_alike`), provided that resolving a symbol fails in both scopes or in none.
-/

namespace ProtoClass

open TypeScript (TypeExpr Property)

/-! ### The same but for names -/

namespace TypeScript.TypeExpr

mutual

/-- Two types are the same, but where one names a declared type the other has a name that is related to it. -/
inductive SameBut (names : String → String → Prop) : TypeExpr → TypeExpr → Prop
  | primitive (type : Primitive) : SameBut names (primitive type) (primitive type)
  | reference {name name' : String} (h : names name name') : SameBut names (reference name) (reference name')
  | literal (text : String) : SameBut names (.literal text) (.literal text)
  | array {element element' : TypeExpr} (h : SameBut names element element') :
      SameBut names (array element) (array element')
  | index {key key' value value' : TypeExpr} (hkey : SameBut names key key') (hvalue : SameBut names value value') :
      SameBut names (index key value) (index key' value')
  | record {properties properties' : List Property} (h : PropertiesSameBut names properties properties') :
      SameBut names (record properties) (record properties')
  | union {members members' : List TypeExpr} (h : AllSameBut names members members') :
      SameBut names (union members) (union members')

inductive AllSameBut (names : String → String → Prop) : List TypeExpr → List TypeExpr → Prop
  | nil : AllSameBut names [] []
  | cons {type type' : TypeExpr} {rest rest' : List TypeExpr} (h : SameBut names type type')
      (hrest : AllSameBut names rest rest') : AllSameBut names (type :: rest) (type' :: rest')

inductive PropertiesSameBut (names : String → String → Prop) : List Property → List Property → Prop
  | nil : PropertiesSameBut names [] []
  | cons {name : String} {type type' : TypeExpr} {optional : Bool} {rest rest' : List Property}
      (h : SameBut names type type') (hrest : PropertiesSameBut names rest rest') :
      PropertiesSameBut names (⟨name, type, optional⟩ :: rest) (⟨name, type', optional⟩ :: rest')

end

variable {names : String → String → Prop}

mutual

/-- If related names are equal, so are the types. -/
theorem SameBut.eq (h : ∀ name name', names name name' → name = name') {type type' : TypeExpr} :
    SameBut names type type' → type = type'
  | .primitive _ => rfl
  | .reference hname => congrArg _ (h _ _ hname)
  | .literal _ => rfl
  | .array helement => congrArg _ (SameBut.eq h helement)
  | .index hkey hvalue => congrArg₂ _ (SameBut.eq h hkey) (SameBut.eq h hvalue)
  | .record hproperties => congrArg _ (PropertiesSameBut.eq h hproperties)
  | .union hmembers => congrArg _ (AllSameBut.eq h hmembers)

theorem AllSameBut.eq (h : ∀ name name', names name name' → name = name') {types types' : List TypeExpr} :
    AllSameBut names types types' → types = types'
  | .nil => rfl
  | .cons htype hrest => congrArg₂ _ (SameBut.eq h htype) (AllSameBut.eq h hrest)

theorem PropertiesSameBut.eq (h : ∀ name name', names name name' → name = name')
    {properties properties' : List Property} :
    PropertiesSameBut names properties properties' → properties = properties'
  | .nil => rfl
  | .cons htype hrest => by rw [SameBut.eq h htype, PropertiesSameBut.eq h hrest]

end

theorem allSameBut_of_forall₂ {types types' : List TypeExpr} (h : List.Forall₂ (SameBut names) types types') :
    AllSameBut names types types' := by
  induction h with
  | nil => exact .nil
  | cons htype _ ih => exact .cons htype ih

end TypeScript.TypeExpr

/-- The cases of one member, or the empty case twice. -/
inductive Variant.SameBut (names : String → String → Prop) : Variant → Variant → Prop
  | member {type type' : TypeExpr} (tag : UInt32) (localName : String) (optional : Bool)
      (h : type.SameBut names type') :
      SameBut names (.member tag localName type optional) (.member tag localName type' optional)
  | empty : SameBut names .empty .empty

structure OneofUnion.SameBut (names : String → String → Prop) (union union' : OneofUnion) : Prop where
  name : union'.name = union.name
  localName : union'.localName = union.localName
  discriminator : union'.discriminator = union.discriminator
  variants : List.Forall₂ (Variant.SameBut names) union.variants union'.variants

inductive ParamSource.SameBut (names : String → String → Prop) : ParamSource → ParamSource → Prop
  | field (tag : UInt32) : SameBut names (.field tag) (.field tag)
  | oneof {union union' : OneofUnion} (h : union.SameBut names union') : SameBut names (.oneof union) (.oneof union')

structure Param.SameBut (names : String → String → Prop) (param param' : Param) : Prop where
  name : param'.name = param.name
  type : param.type.SameBut names param'.type
  optional : param'.optional = param.optional
  docs : param'.docs = param.docs
  source : param.source.SameBut names param'.source

/-- Two classes are the same but for the names of the types that their parameters refer to. -/
structure ClassDecl.SameBut (names : String → String → Prop) (decl decl' : ClassDecl) : Prop where
  identity : decl'.identity = decl.identity
  name : decl'.name = decl.name
  docs : decl'.docs = decl.docs
  params : List.Forall₂ (Param.SameBut names) decl.params decl'.params

theorem OneofUnion.SameBut.type {names : String → String → Prop} {union union' : OneofUnion}
    (h : union.SameBut names union') : union.type.SameBut names union'.type := by
  refine .union (TypeExpr.allSameBut_of_forall₂ ?_)
  rw [h.discriminator, List.forall₂_map_left_iff, List.forall₂_map_right_iff]
  refine h.variants.imp ?_
  intro variant variant' hvariant
  cases hvariant with
  | member tag localName optional htype => exact .record (.cons (.literal _) (.cons htype .nil))
  | empty => exact .record (.cons (.primitive _) .nil)

private theorem eq_of_forall₂ {α : Type} {R : α → α → Prop} {l l' : List α} (hl : List.Forall₂ R l l')
    (h : ∀ a b, R a b → a = b) : l = l' := by
  have heq : List.Forall₂ (· = ·) l l' := hl.imp h
  rwa [List.forall₂_eq_eq_eq] at heq

section Eq

variable {names : String → String → Prop} (h : ∀ name name', names name name' → name = name')

include h

theorem Variant.SameBut.eq {variant variant' : Variant} (hsame : variant.SameBut names variant') :
    variant = variant' := by
  cases hsame with
  | member tag localName optional htype => rw [htype.eq h]
  | empty => rfl

theorem OneofUnion.SameBut.eq {union union' : OneofUnion} (hsame : union.SameBut names union') : union = union' := by
  cases union
  cases union'
  rw [OneofUnion.mk.injEq]
  exact ⟨hsame.name.symm, hsame.localName.symm, hsame.discriminator.symm,
    eq_of_forall₂ hsame.variants fun _ _ hvariant => hvariant.eq h⟩

theorem ParamSource.SameBut.eq {source source' : ParamSource} (hsame : source.SameBut names source') :
    source = source' := by
  cases hsame with
  | field tag => rfl
  | oneof hunion => rw [hunion.eq h]

theorem Param.SameBut.eq {param param' : Param} (hsame : param.SameBut names param') : param = param' := by
  cases param
  cases param'
  rw [Param.mk.injEq]
  exact ⟨hsame.name.symm, hsame.type.eq h, hsame.optional.symm, hsame.docs.symm, hsame.source.eq h⟩

theorem ClassDecl.SameBut.eq {decl decl' : ClassDecl} (hsame : decl.SameBut names decl') : decl = decl' := by
  cases decl
  cases decl'
  rw [ClassDecl.mk.injEq]
  exact ⟨hsame.identity.symm, hsame.name.symm, hsame.docs.symm,
    eq_of_forall₂ hsame.params fun _ _ hparam => hparam.eq h⟩

end Eq

/-! ### Making classes in two scopes -/

namespace TypeContext

variable {inv : SymbolTable → SymbolTable → Prop} {last : SymbolTable} {names : String → String → Prop}
  {scope scope' : Scope} (config : Config)
  (hresolve : ∀ identity kind,
    Gen.Alike inv last names (Gen.resolve scope identity kind) (Gen.resolve scope' identity kind))

include hresolve

theorem elementType_alike (message : Identity) (field : ResolvedField) (type : ResolvedType) :
    Gen.Alike inv last (TypeExpr.SameBut names) (elementType ⟨scope, config⟩ message field type)
      (elementType ⟨scope', config⟩ message field type) := by
  cases type with
  | scalar kind =>
    refine Gen.Alike.pure ?_
    show (kind.type (longFor ⟨scope', config⟩ field)).SameBut names (kind.type (longFor ⟨scope', config⟩ field))
    generalize longFor ⟨scope', config⟩ field = long
    cases kind <;> cases long <;> exact .primitive _
  | enum identity => exact (hresolve identity .enum).returning fun _ _ => .reference
  | message identity => exact (hresolve identity .message).returning fun _ _ => .reference
  | map key value => exact Gen.Alike.throw _
  | group name => exact Gen.Alike.throw _

theorem mapType_alike (message : Identity) (field : ResolvedField) (key : Scalar) (value : ResolvedType) :
    Gen.Alike inv last (TypeExpr.SameBut names) (mapType ⟨scope, config⟩ message field key value)
      (mapType ⟨scope', config⟩ message field key value) := by
  have hkey : key.keyType.SameBut names key.keyType := by
    cases key <;> exact .primitive _
  unfold mapType entryTypes
  split
  · simp only [bind_assoc, pure_bind]
    exact (elementType_alike config hresolve message field value).returning fun _ _ => .index hkey
  · exact Gen.Alike.throw _

theorem baseType_alike (message : Identity) (field : ResolvedField) :
    Gen.Alike inv last (TypeExpr.SameBut names) (baseType ⟨scope, config⟩ message field)
      (baseType ⟨scope', config⟩ message field) := by
  unfold baseType
  split
  · exact mapType_alike config hresolve message field _ _
  · exact elementType_alike config hresolve message field _

theorem fieldType_alike (message : Identity) (field : ResolvedField) :
    Gen.Alike inv last (TypeExpr.SameBut names) (fieldType ⟨scope, config⟩ message field)
      (fieldType ⟨scope', config⟩ message field) := by
  refine (baseType_alike config hresolve message field).returning fun base base' hbase => ?_
  cases field.repeated with
  | true => exact .array hbase
  | false => exact hbase

theorem memberVariant_alike (group : OneofGroup) (field : ResolvedField) :
    Gen.Alike inv last (Variant.SameBut names) (memberVariant ⟨scope, config⟩ group field)
      (memberVariant ⟨scope', config⟩ group field) := by
  unfold memberVariant
  split
  · exact Gen.Alike.throw _
  · exact (baseType_alike config hresolve group.message field).returning fun _ _ => .member _ _ _

theorem oneofUnion_alike (group : OneofGroup) :
    Gen.Alike inv last (OneofUnion.SameBut names) (oneofUnion ⟨scope, config⟩ group)
      (oneofUnion ⟨scope', config⟩ group) := by
  have hmembers := Gen.Alike.mapM (List.forall₂_same.2 fun member (_ : member ∈ group.members) =>
    memberVariant_alike config hresolve group member)
  refine hmembers.returning fun cases cases' hcases => ⟨rfl, rfl, rfl, ?_⟩
  exact List.rel_append hcases (List.Forall₂.cons .empty .nil)

variable (message : ResolvedMessage) (source : MessageDecl)

theorem oneofParam_alike (field : ResolvedField) (oneof : String) :
    Gen.Alike inv last (Param.SameBut names) (oneofParam ⟨scope, config⟩ message source field oneof)
      (oneofParam ⟨scope', config⟩ message source field oneof) := by
  refine Gen.Alike.ofExcept_bind fun group _ => ?_
  split
  · exact Gen.Alike.throw _
  · exact (oneofUnion_alike config hresolve group).returning fun union union' hunion =>
      ⟨rfl, hunion.type, rfl, rfl, .oneof hunion⟩

theorem fieldParam_alike (decl : FieldDecl) (field : ResolvedField) :
    Gen.Alike inv last (Param.SameBut names) (fieldParam ⟨scope, config⟩ message decl field)
      (fieldParam ⟨scope', config⟩ message decl field) :=
  (fieldType_alike config hresolve message.identity field).returning fun _ _ htype =>
    ⟨rfl, htype, rfl, rfl, .field _⟩

theorem params_alike (done : List String) (fields : List ResolvedField) :
    Gen.Alike inv last (List.Forall₂ (Param.SameBut names)) (params ⟨scope, config⟩ message source done fields)
      (params ⟨scope', config⟩ message source done fields) := by
  induction fields generalizing done with
  | nil => exact Gen.Alike.pure .nil
  | cons field rest ih =>
    unfold params
    split
    · exact Gen.Alike.throw _
    · exact (fieldParam_alike config hresolve message _ field).bind fun param param' =>
        (ih done).bind fun others others' => Gen.Alike.pure fun hothers hparam => .cons hparam hothers
    · split
      · exact ih done
      · exact (oneofParam_alike config hresolve message source field _).bind fun param param' =>
          (ih _).bind fun others others' => Gen.Alike.pure fun hothers hparam => .cons hparam hothers

/-- The class of a message is the same in both scopes but for the names that resolving gives, if its own name is. -/
theorem classDecl_alike
    (hname : Gen.Alike inv last (· = ·) (Gen.resolve scope message.identity .constructorClass)
      (Gen.resolve scope' message.identity .constructorClass)) :
    Gen.Alike inv last (ClassDecl.SameBut names) (classDecl ⟨scope, config⟩ message source)
      (classDecl ⟨scope', config⟩ message source) :=
  hname.bind fun _ _ => (params_alike config hresolve message source [] message.fields).bind
    fun _ _ => Gen.Alike.pure fun hparams hname => ⟨rfl, hname.symm, rfl, hparams⟩

end TypeContext

/-- Two catalogues that resolve a message in the same way make the same class of it in two scopes, but for names. -/
theorem Catalog.classOf_alike {inv : SymbolTable → SymbolTable → Prop} {last : SymbolTable}
    {names : String → String → Prop} {scope scope' : Scope} {catalog catalog' : Catalog}
    {entry entry' : Entry MessageDecl} (config : Config)
    (hdecl : entry'.decl = entry.decl)
    (hmessage : catalog'.resolve entry'.identity config.discriminator =
      catalog.resolve entry.identity config.discriminator)
    (hresolve : ∀ identity kind,
      Gen.Alike inv last names (Gen.resolve scope identity kind) (Gen.resolve scope' identity kind))
    (hname : ∀ message, catalog.resolve entry.identity config.discriminator = .ok message →
      Gen.Alike inv last (· = ·) (Gen.resolve scope message.identity .constructorClass)
        (Gen.resolve scope' message.identity .constructorClass)) :
    Gen.Alike inv last (ClassDecl.SameBut names) (catalog.classOf ⟨scope, config⟩ entry)
      (catalog'.classOf ⟨scope', config⟩ entry') := by
  unfold classOf
  rw [hdecl, hmessage]
  exact Gen.Alike.ofExcept_bind fun message hresolved =>
    TypeContext.classDecl_alike config hresolve message entry.decl (hname message hresolved)

end ProtoClass
