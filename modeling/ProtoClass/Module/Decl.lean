import ProtoClass.Class.Decl
import ProtoClass.Module.Path

/-!
# Module declarations

A module holds the enums and classes of a schema file, and every class is followed by the type that refers to it.
`ModuleDecl.render` writes a module as text.
-/

namespace ProtoClass

/-- An enum under its generated name. -/
structure NamedEnum where
  identity : Identity
  name : String
  decl : EnumDecl

/-- A class with the name of the type that refers to it. -/
structure NamedClass where
  typeName : String
  decl : ClassDecl

/-- What a module is made of. -/
structure ModuleDecl where
  /-- the schema file -/
  source : String
  /-- the files it imports from, with the specifiers -/
  imports : List (String × List String)
  enums : List NamedEnum
  classes : List NamedClass

/-- A module as it is written. -/
structure GeneratedModule where
  /-- the path below the output directory -/
  path : String
  /-- the schema file -/
  source : String
  contents : String
  deriving DecidableEq

/-- A constant of an enum as text. -/
def EnumValueDecl.render (value : EnumValueDecl) : String :=
  TypeScript.docBlock "  " (Docs.ofLeading value.commented).lines
    ++ "  " ++ value.name ++ " = " ++ toString value.number ++ ",\n"

/-- An enum as text, under its generated name. -/
def EnumDecl.render (enum : EnumDecl) (name : String) : String :=
  TypeScript.docBlock "" (Docs.ofLeading enum.commented).lines
    ++ "export enum " ++ name ++ " \x7b\n"
    ++ Text.concat (enum.values.map EnumValueDecl.render)
    ++ "\x7d\n"

/-- A line that imports from another module. -/
def importLine (file origin : String) (specifiers : List String) : String :=
  "import type \x7b " ++ Text.joinWith ", " specifiers ++ " \x7d from \"" ++ ModulePath.specifier file origin ++ "\";\n"

def NamedEnum.render (enum : NamedEnum) : String :=
  enum.decl.render enum.name ++ "\n"

def NamedClass.render (named : NamedClass) : String :=
  named.decl.render ++ "export type " ++ named.typeName ++ " = " ++ named.decl.name ++ ";\n\n"

namespace ModuleDecl

/-- The declarations of a module as text. -/
def body (decl : ModuleDecl) : String :=
  Text.concat (decl.enums.map NamedEnum.render) ++ Text.concat (decl.classes.map NamedClass.render)

/-- The text of a module: a header, the imports and the declarations. -/
def contents (decl : ModuleDecl) : String :=
  "/* Auto-generated TypeScript code */\n"
    ++ "/* WARNING: Do not modify this file directly. It is generated from " ++ decl.source ++ ". */\n\n"
    ++ Text.concat (decl.imports.map fun (origin, specifiers) => importLine decl.source origin specifiers)
    ++ (if decl.imports.isEmpty then "" else "\n")
    ++ Text.trimEnd decl.body ++ "\n"

def render (decl : ModuleDecl) : GeneratedModule :=
  ⟨ModulePath.ofSchemaFile decl.source, decl.source, decl.contents⟩

end ModuleDecl

end ProtoClass
