import ProtoClass.Compiled.Basic
import ProtoClass.Wire.Field

/-!
# Compiled schemas in binary form

`FileSet.decode?` reads the binary message that holds a compiled schema.  A field that is given twice takes its last
value, parts of one message given apart are put together, and fields that are not needed here are passed over.
-/

namespace ProtoClass.Compiled

open Wire (Value)

/-- Passes over a field that is not needed; not even that is possible below the last level. -/
private def pass {α : Type} (depth : Nat) (value : α) : Option α :=
  if depth = 0 then none else some value

/-- Reads a message into `start`, field by field. -/
private def readInto {α : Type} (start : α) (step : Nat → α → Nat → Value → Option α) (depth : Nat)
    (bytes : List UInt8) : Option α := do
  let fields ← Wire.fields depth bytes
  fields.foldlM (fun value field => step depth value field.number field.value) start

/-- Reads a message one level down into `start`. -/
private def readBelow {α : Type} (start : α) (step : Nat → α → Nat → Value → Option α) (bytes : List UInt8) :
    Nat → Option α
  | 0 => none
  | depth + 1 => readInto start step depth bytes

private def locationField (depth : Nat) (location : Location) : Nat → Value → Option Location
  | 1, .varint value => some { location with path := location.path ++ [Wire.int32 value] }
  | 1, .bytes content => do
    let values ← Wire.packed content
    return { location with path := location.path ++ values.map Wire.int32 }
  | 3, .bytes content => (Wire.text? content).map fun text => { location with leading := some text }
  | 4, .bytes content => (Wire.text? content).map fun text => { location with trailing := some text }
  | 1, _ | 3, _ | 4, _ => none
  | _, _ => pass depth location

private def sourceField (depth : Nat) (locations : List Location) : Nat → Value → Option (List Location)
  | 1, .bytes content => do
    let location ← readBelow {} locationField content depth
    return locations ++ [location]
  | 1, _ => none
  | _, _ => pass depth locations

/-- A flag among the options of a declaration. -/
private def flagField (number depth : Nat) (flag : Bool) (found : Nat) (value : Value) : Option Bool :=
  if found = number then
    match value with
    | .varint value => some (value != 0)
    | _ => none
  else pass depth flag

private def enumValueField (depth : Nat) (decl : EnumValue) : Nat → Value → Option EnumValue
  | 1, .bytes content => (Wire.text? content).map fun name => { decl with name }
  | 2, .varint value => some { decl with number := Wire.int32 value }
  | 3, .bytes content => do
    let deprecated ← readBelow decl.deprecated (flagField 1) content depth
    return { decl with deprecated }
  | 1, _ | 2, _ | 3, _ => none
  | _, _ => pass depth decl

private def enumField (depth : Nat) (decl : EnumType) : Nat → Value → Option EnumType
  | 1, .bytes content => (Wire.text? content).map fun name => { decl with name }
  | 2, .bytes content => do
    let value ← readBelow {} enumValueField content depth
    return { decl with values := decl.values ++ [value] }
  | 3, .bytes content => do
    let deprecated ← readBelow decl.deprecated (flagField 3) content depth
    return { decl with deprecated }
  | 1, _ | 2, _ | 3, _ => none
  | _, _ => pass depth decl

/-- The cardinality with a number; an unknown number means optional. -/
def Cardinality.ofNumber (number : Int32) : Cardinality :=
  if number = 2 then .required else if number = 3 then .repeated else .optional

/-- The types in the order of their numbers, from 1 on. -/
def TypeCode.numbered : List TypeCode := [
  .scalar .double, .scalar .float, .scalar .int64, .scalar .uint64, .scalar .int32, .scalar .fixed64,
  .scalar .fixed32, .scalar .bool, .scalar .string, .group, .message, .scalar .bytes, .scalar .uint32, .enum,
  .scalar .sfixed32, .scalar .sfixed64, .scalar .sint32, .scalar .sint64]

/-- The type with a number; an unknown number means `double`. -/
def TypeCode.ofNumber (number : Int32) : TypeCode :=
  if 1 ≤ number then (numbered[number.toInt.toNat - 1]?).getD (.scalar .double) else .scalar .double

/-- The form of 64-bit integers with a number; an unknown number means that the field does not choose. -/
def longFormOfNumber (number : Int32) : Option LongForm :=
  if number = 1 then some .string else if number = 2 then some .number else none

private def fieldOptionField (depth : Nat) (decl : Field) : Nat → Value → Option Field
  | 3, .varint value => some { decl with deprecated := value != 0 }
  | 6, .varint value => some { decl with longForm := longFormOfNumber (Wire.int32 value) }
  | 3, _ | 6, _ => none
  | _, _ => pass depth decl

private def fieldField (depth : Nat) (decl : Field) : Nat → Value → Option Field
  | 1, .bytes content => (Wire.text? content).map fun name => { decl with name }
  | 3, .varint value => some { decl with number := Wire.int32 value }
  | 4, .varint value => some { decl with cardinality := .ofNumber (Wire.int32 value) }
  | 5, .varint value => some { decl with type := .ofNumber (Wire.int32 value) }
  | 6, .bytes content => (Wire.text? content).map fun typeName => { decl with typeName }
  | 8, .bytes content => readBelow decl fieldOptionField content depth
  | 9, .varint value => some { decl with oneofIndex := some (Wire.int32 value) }
  | 10, .bytes content => (Wire.text? content).map fun name => { decl with jsonName := some name }
  | 17, .varint value => some { decl with proto3Optional := value != 0 }
  | 1, _ | 3, _ | 4, _ | 5, _ | 6, _ | 8, _ | 9, _ | 10, _ | 17, _ => none
  | _, _ => pass depth decl

private def oneofField (depth : Nat) (name : String) : Nat → Value → Option String
  | 1, .bytes content => Wire.text? content
  | 1, _ => none
  | _, _ => pass depth name

private def messageOptionField (depth : Nat) (decl : Message) : Nat → Value → Option Message
  | 3, .varint value => some { decl with deprecated := value != 0 }
  | 7, .varint value => some { decl with mapEntry := value != 0 }
  | 3, _ | 7, _ => none
  | _, _ => pass depth decl

/-- Reads a field of a message in which `depth` more levels may be opened. -/
private def messageField : Nat → Message → Nat → Value → Option Message
  | _, decl, 1, .bytes content => (Wire.text? content).map fun name => { decl with name }
  | depth, decl, 2, .bytes content => do
    let field ← readBelow {} fieldField content depth
    return { decl with fields := decl.fields ++ [field] }
  | depth + 1, decl, 3, .bytes content => do
    let fields ← Wire.fields depth content
    let inner ← fields.foldlM (fun value field => messageField depth value field.number field.value) {}
    return { decl with messages := decl.messages ++ [inner] }
  | depth, decl, 4, .bytes content => do
    let enum ← readBelow {} enumField content depth
    return { decl with enums := decl.enums ++ [enum] }
  | depth, decl, 7, .bytes content => readBelow decl messageOptionField content depth
  | depth, decl, 8, .bytes content => do
    let oneof ← readBelow "" oneofField content depth
    return { decl with oneofs := decl.oneofs ++ [oneof] }
  | _, _, 1, _ | _, _, 2, _ | _, _, 3, _ | _, _, 4, _ | _, _, 7, _ | _, _, 8, _ => none
  | depth, decl, _, _ => pass depth decl

private def fileField (depth : Nat) (decl : File) : Nat → Value → Option File
  | 1, .bytes content => (Wire.text? content).map fun name => { decl with name }
  | 2, .bytes content => (Wire.text? content).map fun name => { decl with package := some name }
  | 4, .bytes content => do
    let message ← readBelow {} messageField content depth
    return { decl with messages := decl.messages ++ [message] }
  | 5, .bytes content => do
    let enum ← readBelow {} enumField content depth
    return { decl with enums := decl.enums ++ [enum] }
  | 9, .bytes content => do
    let locations ← readBelow decl.locations sourceField content depth
    return { decl with locations }
  | 12, .bytes content => (Wire.text? content).map fun dialect => { decl with dialect }
  | 1, _ | 2, _ | 4, _ | 5, _ | 9, _ | 12, _ => none
  | _, _ => pass depth decl

private def fileSetField (depth : Nat) (set : FileSet) : Nat → Value → Option FileSet
  | 1, .bytes content => do
    let file ← readBelow {} fileField content depth
    return ⟨set.files ++ [file]⟩
  | 1, _ => none
  | _, _ => pass depth set

/-- The compiled schema in a binary message, in which messages may be nested a hundred levels. -/
def FileSet.decode? (bytes : List UInt8) : Option FileSet :=
  readInto {} fileSetField 100 bytes

end ProtoClass.Compiled
