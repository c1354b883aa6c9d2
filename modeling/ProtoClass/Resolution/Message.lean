import ProtoClass.Naming.Property
import ProtoClass.Schema.Catalog

/-!
# Resolved messages

A resolved message has the identities of the types its fields refer to, the property name of every field and oneof,
and plain flags for repetition and presence, so that no later step looks at labels or dialects.
-/

namespace ProtoClass

/-- The type of a field with every name resolved. -/
inductive ResolvedType where
  | scalar (kind : Scalar)
  | enum (identity : Identity)
  | message (identity : Identity)
  | map (key : Scalar) (value : ResolvedType)
  | group (name : String)
  deriving DecidableEq

namespace ResolvedType

/-- The word that error messages and documents use for the sort of type. -/
def sort : ResolvedType → String
  | scalar _ => "scalar"
  | enum _ => "enum"
  | message _ => "message"
  | map _ _ => "map"
  | group _ => "group"

def isMap : ResolvedType → Bool
  | map _ _ => true
  | _ => false

def isMessage : ResolvedType → Bool
  | message _ => true
  | _ => false

end ResolvedType

/-- A field with its property name and its flags. -/
structure ResolvedField where
  tag : UInt32
  name : String
  localName : String
  type : ResolvedType
  repeated : Bool
  optional : Bool
  /-- the oneof that the field is a member of -/
  oneof : Option String
  /-- how this field holds a 64-bit integer, against the general choice -/
  longForm : Option LongForm
  deriving DecidableEq

/-- A oneof with its property name and the tags of its members. -/
structure ResolvedOneof where
  name : String
  localName : String
  members : List UInt32
  deriving DecidableEq

/-- A message with all its fields resolved. -/
structure ResolvedMessage where
  identity : Identity
  name : String
  /-- the name that generated code declares -/
  declaredName : String
  /-- the schema file that declares the message -/
  file : String
  fields : List ResolvedField
  oneofs : List ResolvedOneof
  deriving DecidableEq

namespace ResolvedMessage

/-- The field with the given tag, the last one if several have it. -/
def field (message : ResolvedMessage) (tag : UInt32) : Except GenError ResolvedField :=
  match message.fields.reverse.find? (·.tag == tag) with
  | some field => .ok field
  | none => .error (.missingField message.identity.name tag)

/-- The first oneof with the given name. -/
def oneof? (message : ResolvedMessage) (name : String) : Option ResolvedOneof :=
  message.oneofs.find? (·.name == name)

end ResolvedMessage

/-- The form a field gives its 64-bit integers. -/
def ResolvedField.longFormOr (field : ResolvedField) (default : LongForm) : LongForm :=
  field.longForm.getD default

/-- The oneof that a field is a member of; a field with the `optional` keyword of the third dialect is in none. -/
def FieldDecl.memberOf (field : FieldDecl) : Option String :=
  if field.proto3Optional then none else field.oneof

/-- A field tracks presence if it is explicitly optional, or a message. -/
def FieldDecl.hasPresence (field : FieldDecl) (type : ResolvedType) (dialect : Dialect) : Bool :=
  field.proto3Optional || (field.label == .optional && dialect != .proto3) || type.isMessage

namespace Catalog

/-- The identities behind the names in a field type that stands inside `scope`. -/
def resolveType (catalog : Catalog) (scope : Identity) : FieldType → Except GenError ResolvedType
  | .scalar kind => .ok (.scalar kind)
  | .enum name => do
    let identity ← catalog.resolveEnum scope name
    return .enum identity
  | .message name => do
    let identity ← catalog.resolveMessage scope name
    return .message identity
  | .map key value => do
    let value ← catalog.resolveType scope value
    return .map key value
  | .group name => .ok (.group name)

/-- The property names given out while the fields of a message are resolved. -/
structure PropertyNames where
  names : Naming.LocalNames := {}
  /-- the names given to oneofs, by the schema name -/
  oneofs : List (String × String) := []

/-- Gives a declared oneof its property name unless it has one: it takes the position of its first member. -/
def PropertyNames.claimOneof (message : MessageDecl) (given : PropertyNames) : Option String → PropertyNames
  | none => given
  | some oneof =>
    if (message.oneof? oneof).isSome && (given.oneofs.lookup oneof).isNone then
      let (localName, names) := given.names.allocate oneof none
      ⟨names, given.oneofs ++ [(oneof, localName)]⟩
    else given

variable (catalog : Catalog) (entry : Entry MessageDecl) (discriminator : String)

/-- A field, with the property names given out after it.  A member of a oneof keeps clear of the discriminator. -/
def resolveField (given : PropertyNames) (field : FieldDecl) :
    Except GenError (ResolvedField × PropertyNames) := do
  let type ← catalog.resolveType entry.identity field.type
  let repeated := field.label == .repeated && !type.isMap
  let oneof := field.memberOf
  let given := given.claimOneof entry.decl oneof
  let optional := !repeated && !type.isMap && oneof.isNone && field.hasPresence type entry.file.dialect
  let (localName, names) := given.names.allocate field.name (oneof.map fun _ => discriminator)
  return ({ tag := field.number, name := field.name, localName, type, repeated, optional, oneof,
            longForm := field.longForm },
          { given with names })

def resolveFields (given : PropertyNames) :
    List FieldDecl → Except GenError (List ResolvedField × PropertyNames)
  | [] => .ok ([], given)
  | field :: rest => do
    let (resolved, given) ← resolveField catalog entry discriminator given field
    let (others, given) ← resolveFields given rest
    return (resolved :: others, given)

/-- The oneofs of a message; one without members gets its property name after all fields. -/
def resolveOneofs (fields : List ResolvedField) (given : PropertyNames) : List OneofDecl → List ResolvedOneof
  | [] => []
  | oneof :: rest =>
    let members := (fields.filter (·.oneof == some oneof.name)).map (·.tag)
    match given.oneofs.lookup oneof.name with
    | some localName => ⟨oneof.name, localName, members⟩ :: resolveOneofs fields given rest
    | none =>
      let (localName, names) := given.names.allocate oneof.name none
      ⟨oneof.name, localName, members⟩ :: resolveOneofs fields { given with names } rest

/-- The message with the given identity, resolved.  No member of a oneof is called `discriminator`. -/
def resolve (catalog : Catalog) (identity : Identity) (discriminator : String) :
    Except GenError ResolvedMessage := do
  let entry ← catalog.message identity
  let (fields, given) ← catalog.resolveFields entry discriminator {} entry.decl.fields
  return { identity
           name := entry.decl.name
           declaredName := (catalog.name? identity).getD entry.decl.name
           file := entry.file.name
           fields
           oneofs := resolveOneofs fields given entry.decl.oneofs }

end Catalog

end ProtoClass
