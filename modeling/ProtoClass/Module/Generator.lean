import ProtoClass.Module.Decl

/-!
# Generating modules

Every schema file that declares something becomes a module with its enums and classes.  All names are registered
before the first reference to one is resolved, and names of enums and messages before names of classes.
-/

namespace ProtoClass

/-- A schema with the settings to generate code for it. -/
structure Generator where
  schema : Schema
  config : Config

namespace Catalog

/-- The name to register for a message or enum. -/
def declaredName (catalog : Catalog) (identity : Identity) : Gen String :=
  match catalog.name? identity with
  | some name => return name
  | none => throw (.unknownType identity.name)

/-- Registers a name for every entry, made from the one it is declared under. -/
def reserveAll {α : Type} (catalog : Catalog) (kind : SymbolKind) (nameOf : String → String)
    (entries : List (Entry α)) : Gen Unit :=
  entries.forM fun entry => do
    let name ← catalog.declaredName entry.identity
    discard <| Gen.register (nameOf name) entry.identity entry.file.name kind

/-- Registers the names of all enums, messages and classes. -/
def reserve (catalog : Catalog) : Gen Unit := do
  catalog.reserveAll .enum id catalog.enums
  catalog.reserveAll .message id catalog.messages
  catalog.reserveAll .constructorClass Naming.className catalog.messages

/-- The class of a message, with names as they are written where `context` stands. -/
def classOf (catalog : Catalog) (context : TypeContext) (entry : Entry MessageDecl) : Gen ClassDecl := do
  let message ← Gen.ofExcept (catalog.resolve entry.identity context.config.discriminator)
  context.classDecl message entry.decl

/-- An enum of the module where `context` stands. -/
def namedEnum (context : TypeContext) (entry : Entry EnumDecl) : Gen NamedEnum := do
  let name ← Gen.resolve context.scope entry.identity .enum
  return ⟨entry.identity, name, entry.decl⟩

/-- A class of the module where `context` stands. -/
def namedClass (catalog : Catalog) (context : TypeContext) (entry : Entry MessageDecl) : Gen NamedClass := do
  let decl ← catalog.classOf context entry
  let typeName ← Gen.resolve context.scope entry.identity .message
  return ⟨typeName, decl⟩

/-- The enums and classes of the schema file with index `index`. -/
def fileDecls (catalog : Catalog) (context : TypeContext) (index : Nat) :
    Gen (List NamedEnum × List NamedClass) := do
  let enums ← (catalog.enums.filter (·.fileIndex == index)).mapM (namedEnum context)
  let classes ← (catalog.messages.filter (·.fileIndex == index)).mapM (catalog.namedClass context)
  return (enums, classes)

/-- The module of the schema file with index `index`.  What it imports is known once its declarations are made. -/
def moduleDecl (catalog : Catalog) (config : Config) (file : FileDecl) (index : Nat) : Gen ModuleDecl := do
  let (enums, classes) ← catalog.fileDecls ⟨.file file.name, config⟩ index
  let table ← get
  return ⟨file.name, table.importList file.name, enums, classes⟩

end Catalog

/-- A file without declarations; it gets no module. -/
def FileDecl.isEmpty (file : FileDecl) : Bool :=
  file.messages.isEmpty && file.enums.isEmpty

namespace Generator

def catalog (generator : Generator) : Catalog :=
  Catalog.ofSchema generator.schema

/-- Registers all names; doing it again changes nothing. -/
def reserve (generator : Generator) : Gen Unit :=
  generator.catalog.reserve

/-- The classes of all messages in order of declaration, with names as they are declared. -/
def classes (generator : Generator) : Gen (List ClassDecl) := do
  let catalog := generator.catalog
  catalog.reserve
  catalog.messages.mapM (catalog.classOf ⟨.table, generator.config⟩)

/-- The modules of all files that declare something. -/
def moduleDecls (generator : Generator) : Gen (List ModuleDecl) := do
  let catalog := generator.catalog
  catalog.reserve
  (generator.schema.files.zipIdx.filter fun (file, _) => !file.isEmpty).mapM fun (file, index) =>
    catalog.moduleDecl generator.config file index

/-- The modules as text. -/
def modules (generator : Generator) : Gen (List GeneratedModule) := do
  let decls ← generator.moduleDecls
  return decls.map ModuleDecl.render

end Generator

end ProtoClass
