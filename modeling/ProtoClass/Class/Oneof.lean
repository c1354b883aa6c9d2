import ProtoClass.Class.FieldType

/-!
# Unions for oneofs

A oneof becomes one property whose type is a union of objects.  The discriminator of each object holds the name of the
member that is set, which is the object's other property; the last object stands for "none is set".
-/

namespace ProtoClass

open TypeScript (TypeExpr)

/-- A oneof with its member fields. -/
structure OneofGroup where
  message : Identity
  name : String
  localName : String
  members : List ResolvedField
  deriving DecidableEq

/-- The oneof that a field is a member of. -/
def ResolvedMessage.group (message : ResolvedMessage) (field : ResolvedField) : Except GenError OneofGroup := do
  match field.oneof with
  | none => throw (.missingOneof message.identity.name field.name "")
  | some name =>
    match message.oneof? name with
    | none => throw (.missingOneof message.identity.name field.name name)
    | some oneof =>
      let members ← oneof.members.mapM message.field
      return ⟨message.identity, oneof.name, oneof.localName, members⟩

/-- A case of a oneof. -/
inductive Variant where
  | member (tag : UInt32) (localName : String) (type : TypeExpr) (optional : Bool)
  | empty

/-- The cases of a oneof: its members in order, then the empty case. -/
structure OneofUnion where
  name : String
  localName : String
  discriminator : String
  variants : List Variant

/-- The object type of a case. -/
def Variant.type (discriminator : String) : Variant → TypeExpr
  | member _ localName type optional =>
    .record [⟨discriminator, .literal localName, false⟩, ⟨localName, type, optional⟩]
  | empty => .record [⟨discriminator, .primitive .undefined, false⟩]

/-- The union type of a oneof. -/
def OneofUnion.type (oneof : OneofUnion) : TypeExpr :=
  .union (oneof.variants.map (·.type oneof.discriminator))

namespace TypeContext

/-- The case of a member.  A member with the name of the discriminator cannot be told apart. -/
def memberVariant (context : TypeContext) (group : OneofGroup) (field : ResolvedField) : Gen Variant := do
  if field.localName = context.config.discriminator then
    throw (.discriminatorCollision group.message.name group.name field.name)
  else
    let type ← context.baseType group.message field
    return .member field.tag field.localName type field.optional

/-- The union of a oneof. -/
def oneofUnion (context : TypeContext) (group : OneofGroup) : Gen OneofUnion := do
  let members ← group.members.mapM (context.memberVariant group)
  return ⟨group.name, group.localName, context.config.discriminator, members ++ [.empty]⟩

end TypeContext

end ProtoClass
