import ProtoClass.Json.Value
import ProtoClass.Schema.Decl

/-!
# Schemas as JSON documents

The JSON form of a schema.  Every field of every declaration is present, also those that hold their default.
-/

namespace ProtoClass

namespace FieldType

def toJson : FieldType → Json
  | scalar kind => .obj [("scalar", .str kind.keyword)]
  | enum name => .obj [("enum", .str name)]
  | message name => .obj [("message", .str name)]
  | map key value => .obj [("map", .obj [("key", .str key.keyword), ("value", value.toJson)])]
  | group name => .obj [("group", .str name)]

end FieldType

def FieldDecl.toJson (field : FieldDecl) : Json :=
  .obj [
    ("name", .str field.name),
    ("number", .int field.number.toNat),
    ("label", .str field.label.keyword),
    ("type", field.type.toJson),
    ("oneof", .optional .str field.oneof),
    ("proto3-optional", .bool field.proto3Optional),
    ("jstype", .optional (.str ·.keyword) field.longForm),
    ("json-name", .optional .str field.jsonName),
    ("comment", .optional .str field.comment),
    ("trailing-comment", .optional .str field.trailingComment),
    ("deprecated", .bool field.deprecated)]

def OneofDecl.toJson (oneof : OneofDecl) : Json :=
  .obj [("name", .str oneof.name), ("comment", .optional .str oneof.comment)]

def EnumValueDecl.toJson (value : EnumValueDecl) : Json :=
  .obj [
    ("name", .str value.name),
    ("number", .int value.number.toInt),
    ("comment", .optional .str value.comment),
    ("deprecated", .bool value.deprecated)]

def EnumDecl.toJson (enum : EnumDecl) : Json :=
  .obj [
    ("name", .str enum.name),
    ("values", .arr (enum.values.map EnumValueDecl.toJson)),
    ("comment", .optional .str enum.comment),
    ("deprecated", .bool enum.deprecated)]

mutual

def MessageDecl.toJson : MessageDecl → Json
  | ⟨name, fields, oneofs, messages, enums, comment, trailingComment, deprecated⟩ =>
    .obj [
      ("name", .str name),
      ("fields", .arr (fields.map FieldDecl.toJson)),
      ("oneofs", .arr (oneofs.map OneofDecl.toJson)),
      ("nested-messages", .arr (MessageDecl.listToJson messages)),
      ("nested-enums", .arr (enums.map EnumDecl.toJson)),
      ("comment", .optional .str comment),
      ("trailing-comment", .optional .str trailingComment),
      ("deprecated", .bool deprecated)]

def MessageDecl.listToJson : List MessageDecl → List Json
  | [] => []
  | message :: rest => message.toJson :: listToJson rest

end

def FileDecl.toJson (file : FileDecl) : Json :=
  .obj [
    ("name", .str file.name),
    ("package", .optional .str file.package),
    ("syntax", .str file.dialect.keyword),
    ("messages", .arr (file.messages.map MessageDecl.toJson)),
    ("enums", .arr (file.enums.map EnumDecl.toJson))]

def Schema.toJson (schema : Schema) : Json :=
  .obj [("files", .arr (schema.files.map FileDecl.toJson))]

end ProtoClass
