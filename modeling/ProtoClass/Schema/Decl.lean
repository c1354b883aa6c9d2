import ProtoClass.Schema.Scalar

/-!
# Schema declarations

A schema is a list of files, each with the messages and enums it declares.  Type names are kept as written; they are
resolved later.
-/

namespace ProtoClass

/-- The dialect a schema file is written in. -/
inductive Dialect where
  | proto2 | proto3 | editions
  deriving DecidableEq

namespace Dialect

def all : List Dialect := [proto2, proto3, editions]

def keyword : Dialect → String
  | proto2 => "proto2"
  | proto3 => "proto3"
  | editions => "editions"

def ofKeyword? (word : String) : Option Dialect :=
  all.find? (·.keyword == word)

end Dialect

/-- The cardinality written in front of a field. -/
inductive Label where
  | singular | optional | required | repeated
  deriving DecidableEq

namespace Label

def all : List Label := [singular, optional, required, repeated]

def keyword : Label → String
  | singular => "singular"
  | optional => "optional"
  | required => "required"
  | repeated => "repeated"

def ofKeyword? (word : String) : Option Label :=
  all.find? (·.keyword == word)

end Label

/-- The type of a field as the schema writes it. -/
inductive FieldType where
  | scalar (kind : Scalar)
  | enum (name : String)
  | message (name : String)
  | map (key : Scalar) (value : FieldType)
  | group (name : String)
  deriving DecidableEq

/-- The sort of type: the word that error messages and documents use for it. -/
def FieldType.sort : FieldType → String
  | scalar _ => "scalar"
  | enum _ => "enum"
  | message _ => "message"
  | map _ _ => "map"
  | group _ => "group"

/-- A field of a message. -/
structure FieldDecl where
  name : String
  number : UInt32
  label : Label := .singular
  type : FieldType
  /-- the oneof the field is a member of -/
  oneof : Option String := none
  /-- the field carries the `optional` keyword of the third dialect -/
  proto3Optional : Bool := false
  /-- how this field holds a 64-bit integer, against the general choice -/
  longForm : Option LongForm := none
  jsonName : Option String := none
  comment : Option String := none
  trailingComment : Option String := none
  deprecated : Bool := false
  deriving DecidableEq

/-- A oneof: at most one of its member fields is set. -/
structure OneofDecl where
  name : String
  comment : Option String := none
  deriving DecidableEq

/-- A constant of an enum. -/
structure EnumValueDecl where
  name : String
  number : Int32
  comment : Option String := none
  deprecated : Bool := false
  deriving DecidableEq

/-- An enum with its constants. -/
structure EnumDecl where
  name : String
  values : List EnumValueDecl
  comment : Option String := none
  deprecated : Bool := false
  deriving DecidableEq

/-- A message with the declarations inside it. -/
structure MessageDecl where
  name : String
  fields : List FieldDecl := []
  oneofs : List OneofDecl := []
  messages : List MessageDecl := []
  enums : List EnumDecl := []
  comment : Option String := none
  trailingComment : Option String := none
  deprecated : Bool := false

namespace MessageDecl

/-- The first field with the given number. -/
def field? (message : MessageDecl) (number : UInt32) : Option FieldDecl :=
  message.fields.find? (·.number == number)

/-- The first oneof with the given name. -/
def oneof? (message : MessageDecl) (name : String) : Option OneofDecl :=
  message.oneofs.find? (·.name == name)

end MessageDecl

/-- A schema file. -/
structure FileDecl where
  name : String
  package : Option String := none
  dialect : Dialect := .proto3
  messages : List MessageDecl := []
  enums : List EnumDecl := []

/-- The schema files of one run, in the order they were given. -/
structure Schema where
  files : List FileDecl := []

def Schema.append (first second : Schema) : Schema :=
  ⟨first.files ++ second.files⟩

end ProtoClass
