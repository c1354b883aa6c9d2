import ProtoClass.Compiled.Binary
import ProtoClass.Compiled.Schema
import ProtoClass.Files.Store
import ProtoClass.Json.Reader
import ProtoClass.Module.Path
import ProtoClass.Schema.Reader
import ProtoClass.Yaml.Format

/-!
# Loading schemas

A schema file is a YAML or JSON document or a compiled schema, told apart by the extension of its name.  The schemas
of several files are put together in the order of the files.
-/

namespace ProtoClass

/-- The formats of schema files. -/
inductive InputFormat where
  | yaml | json | compiled
  deriving DecidableEq

/-- Why a schema could not be loaded. -/
inductive LoadError where
  | unreadable (path : String) (fault : FileFault)
  | invalidYaml (path : String)
  | invalidJson (path : String)
  | undecodable
  | malformed (reason : Compiled.Malformed)
  | unsupportedExtension (path : String)
  deriving DecidableEq

namespace LoadError

/-- What is wrong with a document that describes no schema. -/
def mismatch : String := "the document does not describe a schema"

/-- What is wrong with bytes that hold no compiled schema. -/
def undecodableReason : String := "the bytes do not hold a descriptor set"

def message : LoadError → String
  | unreadable path fault => "failed to read " ++ path ++ ": " ++ fault.message
  | invalidYaml path => "invalid YAML schema in " ++ path ++ ": " ++ mismatch
  | invalidJson path => "invalid JSON schema in " ++ path ++ ": " ++ mismatch
  | undecodable => "failed to decode descriptor set: " ++ undecodableReason
  | malformed reason => "malformed descriptor: " ++ reason.message
  | unsupportedExtension path =>
    "unsupported schema input '" ++ path ++ "' (expected .yaml, .yml, .json, .binpb, .pb or .desc)"

/-- The reasons behind an error, the nearest first. -/
def causes : LoadError → List String
  | unreadable _ fault => [fault.message]
  | invalidYaml _ | invalidJson _ => [mismatch]
  | undecodable => [undecodableReason]
  | malformed _ | unsupportedExtension _ => []

end LoadError

/-- The extension of a file name: what follows its last dot, unless that dot is its first character. -/
def extensionOf? (name : String) : Option String :=
  if name = ".." then none
  else
    let reversed := name.toList.reverse
    match reversed.dropWhile (· != '.') with
    | [] | ['.'] => none
    | _ :: _ => some (String.ofList (reversed.takeWhile (· != '.')).reverse)

/-- The last name in a path. -/
def fileName? (path : String) : Option String :=
  ((ModulePath.segments path).filter fun s => !(s.isEmpty || s == ".")).getLast?

namespace InputFormat

/-- The format that the extension of a path tells, in small or capital letters. -/
def ofPath? (path : String) : Option InputFormat := do
  let name ← fileName? path
  let extension ← extensionOf? name
  let word := String.ofList (extension.toList.map Char.toLower)
  if ["yaml", "yml"].contains word then some yaml
  else if word = "json" then some json
  else if ["binpb", "pb", "desc"].contains word then some compiled
  else none

end InputFormat

/-- The schema in a JSON text. -/
def Schema.ofJsonText? (text : String) : Option Schema :=
  (Json.parse? text).bind Json.format.schema

/-- The schema in a YAML text. -/
def Schema.ofYamlText? (text : String) : Option Schema :=
  (Yaml.parse? text).bind Yaml.format.schema

/-- The schema in a compiled schema. -/
def Schema.ofCompiled (bytes : ByteArray) : Except LoadError Schema :=
  match Compiled.FileSet.decode? bytes.toList with
  | none => .error .undecodable
  | some set =>
    match set.toSchema with
    | .ok schema => .ok schema
    | .error reason => .error (.malformed reason)

variable {m : Type → Type} [Monad m] [FileStore m]

/-- Reads a text file and the schema in it. -/
def loadText (path : String) (read : String → Option Schema) (refused : LoadError) :
    m (Except LoadError Schema) := do
  match ← readText path with
  | .error fault => return .error (.unreadable path fault)
  | .ok text =>
    match read text with
    | some schema => return .ok schema
    | none => return .error refused

/-- Loads one schema file. -/
def loadFile (path : String) : m (Except LoadError Schema) := do
  match InputFormat.ofPath? path with
  | none => return .error (.unsupportedExtension path)
  | some .yaml => loadText path Schema.ofYamlText? (.invalidYaml path)
  | some .json => loadText path Schema.ofJsonText? (.invalidJson path)
  | some .compiled =>
    match ← FileStore.readFile path with
    | .error fault => return .error (.unreadable path fault)
    | .ok bytes => return Schema.ofCompiled bytes

/-- Loads schema files one after the other, up to the first that fails. -/
def loadFiles : List String → m (Except LoadError Schema)
  | [] => return .ok {}
  | path :: rest => do
    match ← loadFile path with
    | .error e => return .error e
    | .ok schema =>
      match ← loadFiles rest with
      | .error e => return .error e
      | .ok others => return .ok (schema.append others)

end ProtoClass
