import ProtoClass.Schema.Decl

/-!
# Compiled schemas

What a schema compiler writes about its files.  Map fields refer to synthetic entry messages, optional fields sit in
synthetic oneofs, and comments are kept apart, by the position of what they belong to.
-/

namespace ProtoClass.Compiled

/-- The comments at a position: the path leads from the file to a declaration by field numbers and indices. -/
structure Location where
  path : List Int32 := []
  leading : Option String := none
  trailing : Option String := none

/-- A constant of an enum. -/
structure EnumValue where
  name : String := ""
  number : Int32 := 0
  deprecated : Bool := false

/-- An enum. -/
structure EnumType where
  name : String := ""
  values : List EnumValue := []
  deprecated : Bool := false

/-- The cardinality of a field. -/
inductive Cardinality where
  | optional | required | repeated
  deriving DecidableEq

/-- The type of a field; the name of an enum, message or group is kept beside it. -/
inductive TypeCode where
  | scalar (kind : Scalar)
  | enum | message | group
  deriving DecidableEq

/-- A field. -/
structure Field where
  name : String := ""
  number : Int32 := 0
  cardinality : Cardinality := .optional
  type : TypeCode := .scalar .double
  typeName : String := ""
  /-- the position of the field's oneof in its message -/
  oneofIndex : Option Int32 := none
  proto3Optional : Bool := false
  jsonName : Option String := none
  longForm : Option LongForm := none
  deprecated : Bool := false

/-- A message. -/
structure Message where
  name : String := ""
  fields : List Field := []
  messages : List Message := []
  enums : List EnumType := []
  /-- the names of the oneofs -/
  oneofs : List String := []
  /-- the message holds the entries of a map -/
  mapEntry : Bool := false
  deprecated : Bool := false

/-- A file. -/
structure File where
  name : String := ""
  package : Option String := none
  /-- the name of the dialect -/
  dialect : String := ""
  messages : List Message := []
  enums : List EnumType := []
  locations : List Location := []

/-- The files a compiler was given. -/
structure FileSet where
  files : List File := []

end ProtoClass.Compiled
