import ProtoClass.Text.Blank

/-!
# Paths of generated modules

A schema file `dir/name.proto` becomes the module `dir/name_pb`.  Modules name each other by relative paths.
-/

namespace ProtoClass.ModulePath

/-- The parts of a path of which `current`, reversed, has been read since the last slash. -/
def segmentsFrom (current : List Char) : List Char → List String
  | [] => [String.ofList current.reverse]
  | c :: rest =>
    if c = '/' then String.ofList current.reverse :: segmentsFrom [] rest
    else segmentsFrom (c :: current) rest

/-- The parts of a path between its slashes; there is one at least. -/
def segments (path : String) : List String :=
  segmentsFrom [] path.toList

/-- The path of a module without its extension. -/
def stem (schemaFile : String) : String :=
  match schemaFile.toList.reverse with
  | 'o' :: 't' :: 'o' :: 'r' :: 'p' :: '.' :: rest => String.ofList rest.reverse ++ "_pb"
  | _ => schemaFile ++ "_pb"

/-- The path of the module for a schema file. -/
def ofSchemaFile (schemaFile : String) : String :=
  stem schemaFile ++ ".ts"

/-- How many parts two paths have in common from the start. -/
def sharedLength : List String → List String → Nat
  | a :: as, b :: bs => if a = b then sharedLength as bs + 1 else 0
  | _, _ => 0

/-- How the module of schema file `source` names the module of `target`. -/
def specifier (source target : String) : String :=
  let sourceDirs := (segments source).dropLast
  let targetParts := segments (stem target)
  let targetDirs := targetParts.dropLast
  let shared := sharedLength sourceDirs targetDirs
  let parts := List.replicate (sourceDirs.length - shared) ".." ++ targetDirs.drop shared
    ++ [targetParts.getLastD ""]
  let joined := Text.joinWith "/" parts
  match joined.toList with
  | '.' :: '.' :: _ => joined
  | _ => "./" ++ joined

end ProtoClass.ModulePath
