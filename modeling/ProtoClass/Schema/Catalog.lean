import ProtoClass.Error
import ProtoClass.Schema.Decl
import ProtoClass.Schema.Identity

/-!
# The catalogue of a schema

Every message and enum of a schema, with the file that declares it, in order of declaration.  Where two declarations
have one identity the first counts.  A relative type name is looked up from the innermost scope outwards.
-/

namespace ProtoClass

/-- What a declaration declares. -/
inductive DeclaredItem where
  | message (decl : MessageDecl)
  | enum (decl : EnumDecl)

/-- A declaration at its place in a schema. -/
structure Declaration where
  identity : Identity
  /-- the names of the messages around it and its own, from the outside in -/
  path : List String
  item : DeclaredItem

mutual

/-- A message and all that is declared inside it: the message first, then its messages, then its enums. -/
def MessageDecl.declarations (scope : Identity) (outer : List String) : MessageDecl → List Declaration
  | ⟨name, fields, oneofs, messages, enums, comment, trailingComment, deprecated⟩ =>
    let identity := scope.child name
    let path := outer ++ [name]
    ⟨identity, path, .message ⟨name, fields, oneofs, messages, enums, comment, trailingComment, deprecated⟩⟩
      :: (MessageDecl.listDeclarations identity path messages
        ++ enums.map fun enum => ⟨identity.child enum.name, path ++ [enum.name], .enum enum⟩)

def MessageDecl.listDeclarations (scope : Identity) (outer : List String) : List MessageDecl → List Declaration
  | [] => []
  | message :: rest => message.declarations scope outer ++ listDeclarations scope outer rest

end

/-- The declarations of a file: its messages with what is inside them, then its enums. -/
def FileDecl.declarations (file : FileDecl) : List Declaration :=
  let root := Identity.ofName (file.package.getD "")
  MessageDecl.listDeclarations root [] file.messages
    ++ file.enums.map fun enum => ⟨root.child enum.name, [enum.name], .enum enum⟩

/-- A declaration of one sort, with the file it comes from. -/
structure Entry (α : Type) where
  identity : Identity
  decl : α
  file : FileDecl
  /-- the position of the file in the schema -/
  fileIndex : Nat

/-- The elements whose key no earlier element has. -/
def firstByKey {α κ : Type} [DecidableEq κ] (key : α → κ) : List α → List α
  | [] => []
  | a :: rest => a :: (firstByKey key rest).filter fun b => key b ≠ key a

/-- The messages and enums of a schema. -/
structure Catalog where
  messages : List (Entry MessageDecl)
  enums : List (Entry EnumDecl)
  /-- the name under which generated code declares each identity, first come first -/
  names : List (Identity × String)

/-- The name of a nested declaration in generated code. -/
def nestedName (path : List String) : String :=
  Text.joinWith "_" path

def Declaration.asMessage? (file : FileDecl) (index : Nat) (d : Declaration) : Option (Entry MessageDecl) :=
  match d.item with
  | .message decl => some ⟨d.identity, decl, file, index⟩
  | .enum _ => none

def Declaration.asEnum? (file : FileDecl) (index : Nat) (d : Declaration) : Option (Entry EnumDecl) :=
  match d.item with
  | .message _ => none
  | .enum decl => some ⟨d.identity, decl, file, index⟩

namespace Catalog

def ofSchema (schema : Schema) : Catalog :=
  let files := schema.files.zipIdx
  { messages := firstByKey (·.identity) <|
      files.flatMap fun (file, index) => file.declarations.filterMap (·.asMessage? file index)
    enums := firstByKey (·.identity) <|
      files.flatMap fun (file, index) => file.declarations.filterMap (·.asEnum? file index)
    names := schema.files.flatMap fun file => file.declarations.map fun d => (d.identity, nestedName d.path) }

def message? (catalog : Catalog) (identity : Identity) : Option (Entry MessageDecl) :=
  catalog.messages.find? (·.identity == identity)

def enum? (catalog : Catalog) (identity : Identity) : Option (Entry EnumDecl) :=
  catalog.enums.find? (·.identity == identity)

def message (catalog : Catalog) (identity : Identity) : Except GenError (Entry MessageDecl) :=
  match catalog.message? identity with
  | some entry => .ok entry
  | none => .error (.unknownType identity.name)

def enum (catalog : Catalog) (identity : Identity) : Except GenError (Entry EnumDecl) :=
  match catalog.enum? identity with
  | some entry => .ok entry
  | none => .error (.unknownType identity.name)

/-- The name under which generated code declares a message or enum. -/
def name? (catalog : Catalog) (identity : Identity) : Option String :=
  catalog.names.lookup identity

/-- The identity that a type name denotes inside `scope`, among those that `declared` accepts.  A leading dot makes
the name a full one; any other name is tried in the scope and then in every scope around it. -/
def resolveName (declared : Identity → Bool) (scope : Identity) (name : String) : Except GenError Identity :=
  if name.toList.head? = some '.' then
    let identity := Identity.ofName name
    if declared identity then .ok identity else .error (.unknownType identity.name)
  else
    match (scope.scopes.map fun s => (Identity.ofName s).child name).find? declared with
    | some identity => .ok identity
    | none => .error (.unknownType name)

def resolveMessage (catalog : Catalog) : Identity → String → Except GenError Identity :=
  resolveName fun identity => (catalog.message? identity).isSome

def resolveEnum (catalog : Catalog) : Identity → String → Except GenError Identity :=
  resolveName fun identity => (catalog.enum? identity).isSome

end Catalog

end ProtoClass
