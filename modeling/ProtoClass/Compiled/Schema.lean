import ProtoClass.Compiled.Comment

/-!
# From compiled schemas to schemas

Map entries are folded into the fields that use them, synthetic oneofs disappear, and comments return to what they
belong to.
-/

namespace ProtoClass.Compiled

/-- Why a compiled schema describes no schema. -/
inductive Malformed where
  | invalidNumber (message field : String) (number : Int32)
  | missingOneof (message field : String)
  | missingEntryField (entry : String) (number : Int32)
  | entryKey (entry sort : String)
  deriving DecidableEq

def Malformed.message : Malformed → String
  | invalidNumber message field number => s!"field '{message}.{field}' has invalid number {number}"
  | missingOneof message field => s!"field '{message}.{field}' references a missing oneof"
  | missingEntryField entry number => s!"map entry '{entry}' is missing field {number}"
  | entryKey entry sort => s!"map entry '{entry}' has non-scalar key of kind '{sort}'"

def Field.fieldType (field : Field) : FieldType :=
  match field.type with
  | .scalar kind => .scalar kind
  | .enum => .enum field.typeName
  | .message => .message field.typeName
  | .group => .group field.typeName

/-- The key and value types of a map. -/
structure MapTypes where
  key : Scalar
  value : FieldType

/-- The first field of a map entry with the given number. -/
def Message.entryField (entry : Message) (number : Int32) : Except Malformed Field :=
  match entry.fields.find? (·.number == number) with
  | some field => .ok field
  | none => .error (.missingEntryField entry.name number)

/-- The map types of an entry message: its fields 1 and 2. -/
def Message.mapTypes (entry : Message) : Except Malformed MapTypes := do
  let key ← entry.entryField 1
  match key.fieldType with
  | .scalar kind =>
    let value ← entry.entryField 2
    return ⟨kind, value.fieldType⟩
  | type => throw (.entryKey entry.name type.sort)

/-- What the declarations of a file have in common. -/
structure FileContext where
  dialect : Dialect
  comments : List Location

def FileContext.leading (context : FileContext) (path : List Int32) : Option String :=
  (context.comments.find? (·.path == path)).bind (·.leading)

def FileContext.trailing (context : FileContext) (path : List Int32) : Option String :=
  (context.comments.find? (·.path == path)).bind (·.trailing)

/-- The position of the declaration with index `index` in list `number` of the declaration at `path`. -/
def below (path : List Int32) (number : Int32) (index : Nat) : List Int32 :=
  path ++ [number, Int32.ofNat index]

def EnumType.toDecl (context : FileContext) (path : List Int32) (enum : EnumType) : EnumDecl :=
  { name := enum.name
    values := enum.values.zipIdx.map fun (value, index) =>
      { name := value.name
        number := value.number
        comment := context.leading (below path 2 index)
        deprecated := value.deprecated }
    comment := context.leading path
    deprecated := enum.deprecated }

def Cardinality.label (dialect : Dialect) : Cardinality → Label
  | repeated => .repeated
  | required => .required
  | optional => if dialect = .proto3 then .singular else .optional

/-- A oneof made for one optional field. -/
def Message.isSynthetic (message : Message) (index : Nat) : Bool :=
  message.fields.any fun field => field.proto3Optional && field.oneofIndex == some (Int32.ofNat index)

/-- The oneof a field belongs to; an optional field of the third dialect belongs to none. -/
def Message.oneofOf (message : Message) (field : Field) : Except Malformed (Option String) :=
  match field.oneofIndex with
  | none => .ok none
  | some index =>
    if field.proto3Optional then .ok none
    else
      match if 0 ≤ index then message.oneofs[index.toInt.toNat]? else none with
      | some oneof => .ok (some oneof)
      | none => .error (.missingOneof message.name field.name)

/-- A field.  The maps of the message are known by the full names of their entry messages; of two with one name the
last counts. -/
def Message.toFieldDecl (context : FileContext) (message : Message) (maps : List (String × MapTypes))
    (path : List Int32) (field : Field) : Except Malformed FieldDecl := do
  if field.number < 0 then throw (.invalidNumber message.name field.name field.number)
  let map := if field.type = .message then maps.reverse.lookup field.typeName else none
  let (type, label) :=
    match map with
    | some types => (FieldType.map types.key types.value, Label.singular)
    | none => (field.fieldType, field.cardinality.label context.dialect)
  let oneof ← message.oneofOf field
  return { name := field.name
           number := field.number.toUInt32
           label
           type
           oneof
           proto3Optional := field.proto3Optional
           longForm := field.longForm
           jsonName := field.jsonName
           comment := context.leading path
           trailingComment := context.trailing path
           deprecated := field.deprecated }

/-- The oneofs of a message that are not synthetic. -/
def Message.toOneofDecls (context : FileContext) (path : List Int32) (message : Message) : List OneofDecl :=
  (message.oneofs.zipIdx.filter fun (_, index) => !message.isSynthetic index).map fun (name, index) =>
    { name, comment := context.leading (below path 8 index) }

mutual

/-- A message inside `scope`.  What is inside it is looked at before its own fields. -/
def Message.toDecl (context : FileContext) (scope : String) (path : List Int32) :
    Message → Except Malformed MessageDecl
  | ⟨name, fields, messages, enums, oneofs, mapEntry, deprecated⟩ => do
    let message : Message := ⟨name, fields, messages, enums, oneofs, mapEntry, deprecated⟩
    let (maps, nested) ← Message.innerDecls context (scope ++ "." ++ name) path 0 messages
    let fields ← fields.zipIdx.mapM fun (field, index) =>
      message.toFieldDecl context maps (below path 2 index) field
    return { name
             fields
             oneofs := message.toOneofDecls context path
             messages := nested
             enums := enums.zipIdx.map fun (enum, index) => enum.toDecl context (below path 4 index)
             comment := context.leading path
             trailingComment := context.trailing path
             deprecated }

/-- The messages inside `scope`, from the one with index `index` on: the maps among them by full name, and the
others. -/
def Message.innerDecls (context : FileContext) (scope : String) (path : List Int32) (index : Nat) :
    List Message → Except Malformed (List (String × MapTypes) × List MessageDecl)
  | [] => .ok ([], [])
  | message :: rest =>
    if message.mapEntry then do
      let types ← message.mapTypes
      let (maps, others) ← innerDecls context scope path (index + 1) rest
      return ((scope ++ "." ++ message.name, types) :: maps, others)
    else do
      let decl ← message.toDecl context scope (below path 3 index)
      let (maps, others) ← innerDecls context scope path (index + 1) rest
      return (maps, decl :: others)

end

def dialectOf (name : String) : Dialect :=
  if name = "proto3" then .proto3 else if name = "editions" then .editions else .proto2

def File.toDecl (file : File) : Except Malformed FileDecl := do
  let context : FileContext := ⟨dialectOf file.dialect, comments file.locations⟩
  let package := file.package.filter (!·.isEmpty)
  let scope := (package.map ("." ++ ·)).getD ""
  let messages ← file.messages.zipIdx.mapM fun (message, index) =>
    message.toDecl context scope [4, Int32.ofNat index]
  return { name := file.name
           package
           dialect := context.dialect
           messages
           enums := file.enums.zipIdx.map fun (enum, index) => enum.toDecl context [5, Int32.ofNat index] }

/-- The schema that a compiled schema describes. -/
def FileSet.toSchema (set : FileSet) : Except Malformed Schema := do
  let files ← set.files.mapM File.toDecl
  return { files }

end ProtoClass.Compiled
