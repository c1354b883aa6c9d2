import ProtoClass.Class.Oneof
import ProtoClass.Docs

/-!
# Classes

A message becomes a class whose constructor has one parameter for every field, in order of declaration.  The members
of a oneof share one parameter, at the place of the first of them.
-/

namespace ProtoClass

open TypeScript (TypeExpr)

/-- What a constructor parameter comes from. -/
inductive ParamSource where
  | field (tag : UInt32)
  | oneof (union : OneofUnion)

/-- A constructor parameter. -/
structure Param where
  name : String
  type : TypeExpr
  optional : Bool
  docs : Docs
  source : ParamSource

/-- A class. -/
structure ClassDecl where
  identity : Identity
  name : String
  docs : Docs
  params : List Param

namespace TypeContext

/-- The parameter of a oneof, from the first of its members. -/
def oneofParam (context : TypeContext) (message : ResolvedMessage) (source : MessageDecl) (field : ResolvedField)
    (oneof : String) : Gen Param := do
  let group ← Gen.ofExcept (message.group field)
  match source.oneof? oneof with
  | none => throw (.missingOneof message.identity.name field.name oneof)
  | some decl =>
    let union ← context.oneofUnion group
    return ⟨group.localName, union.type, false, .ofLeading decl.commented, .oneof union⟩

/-- The parameter of a field outside every oneof. -/
def fieldParam (context : TypeContext) (message : ResolvedMessage) (decl : FieldDecl) (field : ResolvedField) :
    Gen Param := do
  let type ← context.fieldType message.identity field
  return ⟨field.localName, type, field.optional, .ofBoth decl.commented, .field field.tag⟩

/-- The parameters for the fields of a message, given the oneofs that have theirs already. -/
def params (context : TypeContext) (message : ResolvedMessage) (source : MessageDecl) (done : List String) :
    List ResolvedField → Gen (List Param)
  | [] => return []
  | field :: rest =>
    match source.field? field.tag, field.oneof with
    | none, _ => throw (.missingField message.identity.name field.tag)
    | some decl, none => do
      let param ← context.fieldParam message decl field
      let others ← params context message source done rest
      return param :: others
    | some _, some oneof =>
      if done.contains oneof then params context message source done rest
      else do
        let param ← context.oneofParam message source field oneof
        let others ← params context message source (oneof :: done) rest
        return param :: others

/-- The class of a message; `source` is the declaration it was resolved from. -/
def classDecl (context : TypeContext) (message : ResolvedMessage) (source : MessageDecl) : Gen ClassDecl := do
  let name ← Gen.resolve context.scope message.identity .constructorClass
  let params ← context.params message source [] message.fields
  return ⟨message.identity, name, .ofBoth source.commented, params⟩

end TypeContext

namespace ClassDecl

/-- The line of a parameter.  It is marked optional only if all parameters after it are; where one is not, the type
includes `undefined`. -/
def paramLine (param : Param) (rest : List Param) : String :=
  let lead := "    public readonly " ++ param.name
  if param.optional && rest.all (·.optional) then lead ++ "?: " ++ param.type.render ++ ",\n"
  else if param.optional then lead ++ ": " ++ param.type.orUndefined.render ++ ",\n"
  else lead ++ ": " ++ param.type.render ++ ",\n"

def renderParams : List Param → String
  | [] => ""
  | param :: rest =>
    TypeScript.docBlock "    " param.docs.lines ++ paramLine param rest ++ renderParams rest

/-- A class as text. -/
def render (decl : ClassDecl) : String :=
  TypeScript.docBlock "" decl.docs.lines
    ++ "export class " ++ decl.name ++ " \x7b\n"
    ++ (if decl.params.isEmpty then "  constructor() \x7b\x7d\n"
        else "  constructor(\n" ++ renderParams decl.params ++ "  ) \x7b\x7d\n")
    ++ "\x7d\n"

end ClassDecl

end ProtoClass
