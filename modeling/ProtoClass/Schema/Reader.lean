import ProtoClass.Schema.Decl
import ProtoClass.Schema.Format

/-!
# Reading schemas from documents

One reader for all document formats.  A record may leave out the fields that have a default; unknown members are
ignored.  The level count is how many lists and records may still be opened.
-/

namespace ProtoClass.Format

variable {ν : Type} (format : Format ν)

def dialect (depth : Nat) (value : ν) : Option Dialect :=
  (format.word? depth value).bind Dialect.ofKeyword?

def label (depth : Nat) (value : ν) : Option Label :=
  (format.word? depth value).bind Label.ofKeyword?

def longForm (depth : Nat) (value : ν) : Option LongForm :=
  (format.word? depth value).bind LongForm.ofKeyword?

def scalar (depth : Nat) (value : ν) : Option Scalar :=
  (format.word? depth value).bind Scalar.ofKeyword?

/-- A field type: a tag over a keyword, a type name, or the record of a map. -/
def fieldType : Nat → ν → Option FieldType
  | 0, _ => none
  | depth + 1, value =>
    match format.variant? value with
    | some ("scalar", body) => ((format.text? body).bind Scalar.ofKeyword?).map .scalar
    | some ("enum", body) => (format.text? body).map .enum
    | some ("message", body) => (format.text? body).map .message
    | some ("group", body) => (format.text? body).map .group
    | some ("map", body) =>
      match depth, format.slotsOf ["key", "value"] body with
      | depth + 1, some [some key, some value] => do
        let key ← (format.text? key).bind Scalar.ofKeyword?
        let value ← fieldType depth value
        return .map key value
      | _, _ => none
    | _ => none

def fieldDecl : Nat → ν → Option FieldDecl
  | 0, _ => none
  | depth + 1, value =>
    match format.slotsOf ["name", "number", "label", "type", "oneof", "proto3-optional", "jstype", "json-name",
        "comment", "trailing-comment", "deprecated"] value with
    | some [name, number, label, type, oneof, proto3Optional, longForm, jsonName, comment, trailingComment,
        deprecated] => do
      let name ← required format.text? name
      let number ← required format.uint32? number
      let label ← defaulted .singular (format.label depth) label
      let type ← required (format.fieldType depth) type
      let oneof ← format.optional format.text? oneof
      let proto3Optional ← defaulted false format.flag? proto3Optional
      let longForm ← format.optional (format.longForm depth) longForm
      let jsonName ← format.optional format.text? jsonName
      let comment ← format.optional format.text? comment
      let trailingComment ← format.optional format.text? trailingComment
      let deprecated ← defaulted false format.flag? deprecated
      return { name, number, label, type, oneof, proto3Optional, longForm, jsonName, comment, trailingComment,
               deprecated }
    | _ => none

def oneofDecl : Nat → ν → Option OneofDecl
  | 0, _ => none
  | _ + 1, value =>
    match format.slotsOf ["name", "comment"] value with
    | some [name, comment] => do
      let name ← required format.text? name
      let comment ← format.optional format.text? comment
      return { name, comment }
    | _ => none

def enumValueDecl : Nat → ν → Option EnumValueDecl
  | 0, _ => none
  | _ + 1, value =>
    match format.slotsOf ["name", "number", "comment", "deprecated"] value with
    | some [name, number, comment, deprecated] => do
      let name ← required format.text? name
      let number ← required format.int32? number
      let comment ← format.optional format.text? comment
      let deprecated ← defaulted false format.flag? deprecated
      return { name, number, comment, deprecated }
    | _ => none

def enumDecl : Nat → ν → Option EnumDecl
  | 0, _ => none
  | depth + 1, value =>
    match format.slotsOf ["name", "values", "comment", "deprecated"] value with
    | some [name, values, comment, deprecated] => do
      let name ← required format.text? name
      let values ← required (format.listOf format.enumValueDecl depth) values
      let comment ← format.optional format.text? comment
      let deprecated ← defaulted false format.flag? deprecated
      return { name, values, comment, deprecated }
    | _ => none

/-- A message; the messages inside it are two levels further down. -/
def messageDecl : Nat → ν → Option MessageDecl
  | 0, _ => none
  | depth + 1, value =>
    match format.slotsOf ["name", "fields", "oneofs", "nested-messages", "nested-enums", "comment",
        "trailing-comment", "deprecated"] value with
    | some [name, fields, oneofs, messages, enums, comment, trailingComment, deprecated] => do
      let name ← required format.text? name
      let fields ← defaulted [] (format.listOf format.fieldDecl depth) fields
      let oneofs ← defaulted [] (format.listOf format.oneofDecl depth) oneofs
      let messages ←
        match messages, depth with
        | none, _ => some []
        | some _, 0 => none
        | some messages, depth + 1 => (format.items? messages).bind (·.mapM (messageDecl depth))
      let enums ← defaulted [] (format.listOf format.enumDecl depth) enums
      let comment ← format.optional format.text? comment
      let trailingComment ← format.optional format.text? trailingComment
      let deprecated ← defaulted false format.flag? deprecated
      return { name, fields, oneofs, messages, enums, comment, trailingComment, deprecated }
    | _ => none

def fileDecl : Nat → ν → Option FileDecl
  | 0, _ => none
  | depth + 1, value =>
    match format.slotsOf ["name", "package", "syntax", "messages", "enums"] value with
    | some [name, package, dialect, messages, enums] => do
      let name ← required format.text? name
      let package ← format.optional format.text? package
      let dialect ← defaulted .proto3 (format.dialect depth) dialect
      let messages ← defaulted [] (format.listOf format.messageDecl depth) messages
      let enums ← defaulted [] (format.listOf format.enumDecl depth) enums
      return { name, package, dialect, messages, enums }
    | _ => none

def schemaAt : Nat → ν → Option Schema
  | 0, _ => none
  | depth + 1, value =>
    match format.slotsOf ["files"] value with
    | some [files] => do
      let files ← required (format.listOf format.fileDecl depth) files
      return { files }
    | _ => none

/-- The schema a document describes, if it describes one. -/
def schema (value : ν) : Option Schema :=
  format.schemaAt format.depth value

end ProtoClass.Format
