import ProtoClass.Files.Store
import ProtoClass.Module.Generator

/-!
# Writing modules

All modules are generated before the first one is written; then they are written one by one, each into its directory
below the output directory.
-/

namespace ProtoClass

/-- Why modules were not written. -/
inductive EmitError where
  | generation (error : GenError)
  | unwritable (path : String) (fault : FileFault)
  deriving DecidableEq

namespace EmitError

def message : EmitError → String
  | generation error => error.message
  | unwritable path fault => "failed to write " ++ path ++ ": " ++ fault.message

/-- The reasons behind an error, the nearest first. -/
def causes : EmitError → List String
  | generation _ => []
  | unwritable _ fault => [fault.message]

end EmitError

/-- A path below a directory; a path from the root stays as it is. -/
def joinPath (dir path : String) : String :=
  if path.toList.head? = some '/' || dir.isEmpty then path
  else if dir.toList.getLast? = some '/' then dir ++ path
  else dir ++ "/" ++ path

/-- The directory that a path leads into. -/
def parentPath (path : String) : String :=
  String.ofList ((path.toList.reverse.dropWhile (· != '/')).drop 1).reverse

variable {m : Type → Type} [Monad m] [FileStore m]

/-- Writes a text file and creates the directories it is in. -/
def writeText (path text : String) : m (Except FileFault Unit) := do
  match ← FileStore.createDirs (parentPath path) with
  | .error fault => return .error fault
  | .ok () => FileStore.writeFile path text.toUTF8

/-- Writes modules below a directory, up to the first that fails.  The paths written are returned. -/
def writeModules (dir : String) : List GeneratedModule → m (Except EmitError (List String))
  | [] => return .ok []
  | first :: rest => do
    let path := joinPath dir first.path
    match ← writeText path first.contents with
    | .error fault => return .error (.unwritable path fault)
    | .ok () =>
      match ← writeModules dir rest with
      | .error e => return .error e
      | .ok others => return .ok (path :: others)

/-- Generates the modules and writes them below a directory.  The symbol table is handed on. -/
def Generator.emit (generator : Generator) (dir : String) (table : SymbolTable) :
    m (Except EmitError (List String) × SymbolTable) := do
  match generator.modules.run table with
  | (.error e, table) => return (.error (.generation e), table)
  | (.ok modules, table) => return (← writeModules dir modules, table)

end ProtoClass
