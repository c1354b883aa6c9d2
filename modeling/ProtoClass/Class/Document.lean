import ProtoClass.Class.Decl

/-!
# Classes as JSON documents

Documentation is left out where there is none.
-/

namespace ProtoClass

private def listMember (key : String) (lines : List String) : List (String × Json) :=
  if lines.isEmpty then [] else [(key, .strs lines)]

def Docs.toJson (docs : Docs) : Json :=
  .obj (listMember "leading" docs.leading ++ listMember "trailing" docs.trailing)

private def docsMember (docs : Docs) : List (String × Json) :=
  if docs.isEmpty then [] else [("docs", docs.toJson)]

def Variant.toJson : Variant → Json
  | member tag localName type optional =>
    .obj [("variant", .str "member"), ("tag", .ofNat tag.toNat), ("local_name", .str localName),
      ("type", type.toJson), ("optional", .bool optional)]
  | empty => .obj [("variant", .str "empty")]

def OneofUnion.toJson (oneof : OneofUnion) : Json :=
  .obj [("name", .str oneof.name), ("local_name", .str oneof.localName),
    ("discriminator", .str oneof.discriminator), ("variants", .arr (oneof.variants.map Variant.toJson))]

private def ParamSource.members : ParamSource → List (String × Json)
  | field tag => [("source", .str "field"), ("tag", .ofNat tag.toNat)]
  | oneof union => [("source", .str "oneof"), ("adt", union.toJson)]

def Param.toJson (param : Param) : Json :=
  .obj ([("name", .str param.name), ("type", param.type.toJson), ("optional", .bool param.optional)]
    ++ docsMember param.docs ++ param.source.members)

def ClassDecl.toJson (decl : ClassDecl) : Json :=
  .obj ([("identity", .str decl.identity.name), ("class_name", .str decl.name)]
    ++ docsMember decl.docs ++ [("params", .arr (decl.params.map Param.toJson))])

end ProtoClass
