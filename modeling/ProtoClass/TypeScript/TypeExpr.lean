import ProtoClass.Json.Value
import ProtoClass.TypeScript.Lexical

/-!
# Type expressions

The types of generated code, as a tree and as text.  The text is compact and on one line, so that a type is always
written the same way.
-/

namespace ProtoClass.TypeScript

/-- A built-in type. -/
inductive Primitive where
  | boolean | number | string | bigint | uint8Array | undefined
  deriving DecidableEq

namespace Primitive

def render : Primitive → String
  | boolean => "boolean"
  | number => "number"
  | string => "string"
  | bigint => "bigint"
  | uint8Array => "Uint8Array"
  | undefined => "undefined"

/-- The word for the type in JSON documents. -/
def keyword : Primitive → String
  | boolean => "boolean"
  | number => "number"
  | string => "string"
  | bigint => "bigint"
  | uint8Array => "uint8-array"
  | undefined => "undefined"

end Primitive

mutual

/-- A type of generated code. -/
inductive TypeExpr where
  | primitive (type : Primitive)
  /-- a declared type -/
  | reference (name : String)
  /-- the type of one string -/
  | literal (text : String)
  | array (element : TypeExpr)
  /-- an object with any keys -/
  | index (key value : TypeExpr)
  /-- an object with fixed properties -/
  | record (properties : List Property)
  | union (members : List TypeExpr)

/-- A property of an object type. -/
inductive Property where
  | mk (name : String) (type : TypeExpr) (optional : Bool)

end

def Property.name : Property → String
  | ⟨name, _, _⟩ => name

def Property.type : Property → TypeExpr
  | ⟨_, type, _⟩ => type

def Property.optional : Property → Bool
  | ⟨_, _, optional⟩ => optional

namespace TypeExpr

def isUnion : TypeExpr → Bool
  | union _ => true
  | _ => false

/-- The union of a type with `undefined`. -/
def orUndefined : TypeExpr → TypeExpr
  | union members => union (members ++ [primitive .undefined])
  | type => union [type, primitive .undefined]

mutual

/-- A type as text.  A union is put in parentheses where it is an element. -/
def render : TypeExpr → String
  | primitive type => type.render
  | reference name => name
  | .literal text => TypeScript.literal text
  | array element =>
    if element.isUnion then "(" ++ element.render ++ ")[]" else element.render ++ "[]"
  | index key value => "\x7b[key:" ++ key.render ++ "]:" ++ value.render ++ "\x7d"
  | record properties => "\x7b" ++ Text.joinWith "," (renderProperties properties) ++ "\x7d"
  | union members => Text.joinWith "|" (renderAll members)

def renderAll : List TypeExpr → List String
  | [] => []
  | type :: rest => type.render :: renderAll rest

def renderProperties : List Property → List String
  | [] => []
  | property :: rest => renderProperty property :: renderProperties rest

def renderProperty : Property → String
  | ⟨name, type, optional⟩ => name ++ (if optional then "?" else "") ++ ":" ++ type.render

end

mutual

def toJson : TypeExpr → Json
  | primitive type => .obj [("primitive", .str type.keyword)]
  | reference name => .obj [("reference", .str name)]
  | .literal text => .obj [("string-literal", .str text)]
  | array element => .obj [("array", element.toJson)]
  | index key value => .obj [("index-signature", .obj [("key", key.toJson), ("value", value.toJson)])]
  | record properties => .obj [("record", .arr (propertiesToJson properties))]
  | union members => .obj [("union", .arr (listToJson members))]

def listToJson : List TypeExpr → List Json
  | [] => []
  | type :: rest => type.toJson :: listToJson rest

def propertiesToJson : List Property → List Json
  | [] => []
  | property :: rest => propertyToJson property :: propertiesToJson rest

def propertyToJson : Property → Json
  | ⟨name, type, optional⟩ => .obj [("name", .str name), ("type", type.toJson), ("optional", .bool optional)]

end

end TypeExpr

end ProtoClass.TypeScript
