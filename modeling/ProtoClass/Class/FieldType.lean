import ProtoClass.Config
import ProtoClass.Resolution.Message
import ProtoClass.Symbol.Table
import ProtoClass.TypeScript.TypeExpr

/-!
# Types of fields

The generated type of a field: scalars by a fixed table, enums and messages by reference, maps as objects, and an
array around a repeated field.  Object keys are texts or numbers, so a map key never takes the form chosen for 64-bit
integers.
-/

namespace ProtoClass

open TypeScript (TypeExpr)

/-- What the types of a message depend on besides the message. -/
structure TypeContext where
  scope : Scope
  config : Config

/-- The type of a 64-bit integer. -/
def LongForm.type : LongForm → TypeExpr
  | string => .primitive .string
  | number => .primitive .number
  | bigint => .primitive .bigint

/-- The type of a scalar; only 64-bit integers depend on the form. -/
def Scalar.type (long : LongForm) : Scalar → TypeExpr
  | bool => .primitive .boolean
  | string => .primitive .string
  | bytes => .primitive .uint8Array
  | float | double | int32 | uint32 | sint32 | fixed32 | sfixed32 => .primitive .number
  | int64 | uint64 | sint64 | fixed64 | sfixed64 => long.type

/-- The type of a map key: a number for 32-bit integers, text for all others. -/
def Scalar.keyType : Scalar → TypeExpr
  | bool | string => .primitive .string
  | kind => kind.type .string

/-- The word by which an error names a type. -/
def ResolvedType.shown : ResolvedType → String
  | scalar kind => kind.keyword
  | type => type.sort

namespace TypeContext

variable (context : TypeContext)

/-- The form a field gives its 64-bit integers. -/
def longFor (field : ResolvedField) : LongForm :=
  field.longFormOr context.config.longForm

variable (message : Identity) (field : ResolvedField)

/-- The type of a scalar, enum or message; maps and groups cannot be elements. -/
def elementType : ResolvedType → Gen TypeExpr
  | .scalar kind => return kind.type (context.longFor field)
  | .enum identity => do
    let name ← Gen.resolve context.scope identity .enum
    return .reference name
  | .message identity => do
    let name ← Gen.resolve context.scope identity .message
    return .reference name
  | type => throw (.unsupportedKind message.name field.name type.shown)

/-- The types of the keys and values of a map. -/
def entryTypes (key : Scalar) (value : ResolvedType) : Gen (TypeExpr × TypeExpr) := do
  if key.isMapKey then
    let valueType ← context.elementType message field value
    return (key.keyType, valueType)
  else throw (.unsupportedKind message.name field.name ("map key " ++ key.keyword))

def mapType (key : Scalar) (value : ResolvedType) : Gen TypeExpr := do
  let (keyType, valueType) ← context.entryTypes message field key value
  return .index keyType valueType

/-- The type of one value of a field. -/
def baseType : Gen TypeExpr :=
  match field.type with
  | .map key value => context.mapType message field key value
  | type => context.elementType message field type

/-- The type of a field. -/
def fieldType : Gen TypeExpr := do
  let base ← context.baseType message field
  return if field.repeated then .array base else base

end TypeContext

end ProtoClass
