import ProtoClass.Error
import ProtoClass.Naming.Fresh
import ProtoClass.Schema.Identity

/-!
# The symbol table

Every generated file is a namespace of its own.  A declaration whose name is taken in its file gets a number, and so
does a name that is imported into a file where it is taken already.
-/

namespace ProtoClass

/-- What a generated name stands for. -/
inductive SymbolKind where
  /-- the type that refers to a message -/
  | message
  | enum
  /-- the class with the constructor of a message -/
  | constructorClass
  deriving DecidableEq

def SymbolKind.shown : SymbolKind → String
  | message => "message"
  | enum => "enum"
  | constructorClass => "constructor class"

/-- A name that generated code declares. -/
structure Symbol where
  name : String
  /-- the name that was asked for -/
  requested : String
  identity : Identity
  /-- the schema file that declares it -/
  file : String
  kind : SymbolKind
  deriving DecidableEq

/-- What tells one symbol from another: no two symbols have both in common. -/
structure SymbolKey where
  identity : Identity
  kind : SymbolKind
  deriving DecidableEq

def Symbol.key (symbol : Symbol) : SymbolKey :=
  ⟨symbol.identity, symbol.kind⟩

/-- Gives a key a value, in the place of the one it has or at the end. -/
def putValue {κ β : Type} [DecidableEq κ] (key : κ) (value : β) : List (κ × β) → List (κ × β)
  | [] => [(key, value)]
  | (first, old) :: rest =>
    if key = first then (first, value) :: rest else (first, old) :: putValue key value rest

/-- Inserts a text into a list in order, unless it is there. -/
def insertSorted (text : String) : List String → List String
  | [] => [text]
  | first :: rest =>
    if text = first then first :: rest
    else if text < first then text :: first :: rest
    else first :: insertSorted text rest

/-- How an import names its symbol: as declared, or under another name. -/
def importSpecifier (name localName : String) : String :=
  if localName = name then name else name ++ " as " ++ localName

/-- Adds a specifier to those from `origin`; the files and the specifiers of each are in order. -/
def addSpecifier (origin specifier : String) : List (String × List String) → List (String × List String)
  | [] => [(origin, [specifier])]
  | (first, specifiers) :: rest =>
    if origin = first then (first, insertSorted specifier specifiers) :: rest
    else if origin < first then (origin, [specifier]) :: (first, specifiers) :: rest
    else (first, specifiers) :: addSpecifier origin specifier rest

/-- What one file takes from others. -/
structure FileImports where
  /-- the name of every imported symbol in the file -/
  localNames : List (SymbolKey × String) := []
  /-- the local names given out -/
  taken : List String := []
  /-- the specifiers, by the file that declares the symbol -/
  byOrigin : List (String × List String) := []

/-- Adds a symbol under a local name. -/
def FileImports.add (imports : FileImports) (symbol : Symbol) (localName : String) : FileImports where
  localNames := (symbol.key, localName) :: imports.localNames
  taken := localName :: imports.taken
  byOrigin := addSpecifier symbol.file (importSpecifier symbol.name localName) imports.byOrigin

/-- The symbols registered so far, the names that each file declares, and what references to symbols of other files
have made each file import. -/
structure SymbolTable where
  symbols : List Symbol := []
  declared : List (String × List String) := []
  imports : List (String × FileImports) := []

/-- How error messages name a symbol. -/
def symbolLabel (identity : Identity) (kind : SymbolKind) : String :=
  identity.name ++ " (" ++ kind.shown ++ ")"

namespace SymbolTable

def find? (table : SymbolTable) (key : SymbolKey) : Option Symbol :=
  table.symbols.find? (·.key == key)

def lookup (table : SymbolTable) (identity : Identity) (kind : SymbolKind) : Except GenError Symbol :=
  match table.find? ⟨identity, kind⟩ with
  | some symbol => .ok symbol
  | none => .error (.unknownType (symbolLabel identity kind))

/-- The names declared in a file. -/
def declaredIn (table : SymbolTable) (file : String) : List String :=
  (table.declared.lookup file).getD []

/-- The imports of a file. -/
def importsOf (table : SymbolTable) (file : String) : FileImports :=
  (table.imports.lookup file).getD {}

/-- The table with one more symbol. -/
def declare (table : SymbolTable) (symbol : Symbol) : SymbolTable :=
  { table with
    symbols := table.symbols ++ [symbol]
    declared := putValue symbol.file (symbol.name :: table.declaredIn symbol.file) table.declared }

/-- Registers a name.  Asking again for the same name gives the same answer; asking for another one is an error. -/
def register (table : SymbolTable) (name : String) (identity : Identity) (file : String) (kind : SymbolKind) :
    Except GenError (String × SymbolTable) :=
  match table.find? ⟨identity, kind⟩ with
  | some existing =>
    if existing.requested = name ∧ existing.file = file then .ok (existing.name, table)
    else .error (.symbolConflict name (existing.name ++ " in " ++ existing.file) (symbolLabel identity kind))
  | none =>
    let allocated := Naming.firstFree (Naming.numbered name) (table.declaredIn file)
    .ok (allocated, table.declare ⟨allocated, name, identity, file, kind⟩)

/-- The table in which `file` imports one more symbol. -/
def addImport (table : SymbolTable) (file : String) (symbol : Symbol) (localName : String) : SymbolTable :=
  { table with imports := putValue file ((table.importsOf file).add symbol localName) table.imports }

/-- The name of a symbol of another file inside `file`.  It is chosen on first use and kept from then on. -/
def importInto (table : SymbolTable) (file : String) (symbol : Symbol) : String × SymbolTable :=
  let imports := table.importsOf file
  match imports.localNames.lookup symbol.key with
  | some known => (known, table)
  | none =>
    let localName := Naming.firstFree (Naming.numbered symbol.name) (table.declaredIn file ++ imports.taken)
    (localName, table.addImport file symbol localName)

/-- What a file imports: every file it takes symbols from, with the specifiers, both in order. -/
def importList (table : SymbolTable) (file : String) : List (String × List String) :=
  (table.importsOf file).byOrigin

end SymbolTable

/-- Generation steps: they can fail, and what they did to the symbol table stays done when they do. -/
abbrev Gen := ExceptT GenError (StateM SymbolTable)

/-- Where a reference stands: nowhere in particular, or in the code generated for a file. -/
inductive Scope where
  | table
  | file (name : String)
  deriving DecidableEq

namespace Gen

/-- A step that does not touch the symbol table. -/
def ofExcept {α : Type} : Except GenError α → Gen α
  | .ok a => return a
  | .error e => throw e

def register (name : String) (identity : Identity) (file : String) (kind : SymbolKind) : Gen String := do
  let table ← get
  match table.register name identity file kind with
  | .ok (allocated, table) => do
    set table
    return allocated
  | .error e => throw e

def lookup (identity : Identity) (kind : SymbolKind) : Gen Symbol := do
  let table ← get
  ofExcept (table.lookup identity kind)

/-- The name of a symbol where a reference stands.  A reference out of its file becomes an import. -/
def resolve (scope : Scope) (identity : Identity) (kind : SymbolKind) : Gen String := do
  let symbol ← lookup identity kind
  match scope with
  | .table => return symbol.name
  | .file file =>
    if symbol.file = file then return symbol.name
    else modifyGet fun table => table.importInto file symbol

end Gen

end ProtoClass
