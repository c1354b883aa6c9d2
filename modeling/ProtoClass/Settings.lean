import ProtoClass.Config
import ProtoClass.Files.Store
import ProtoClass.Schema.Reader
import ProtoClass.Yaml.Format

/-!
# Settings files

Settings come from an optional YAML file; single values can be replaced afterwards.  They are checked whenever they
change.
-/

namespace ProtoClass

/-- Why settings cannot be used. -/
inductive ConfigError where
  | unreadable (path : String) (fault : FileFault)
  | invalidFormat
  | invalidDiscriminator (name : String)
  deriving DecidableEq

namespace ConfigError

/-- What is wrong with a document that holds no settings. -/
def mismatch : String := "the document does not hold settings"

def message : ConfigError → String
  | unreadable path fault => "failed to read config file " ++ path ++ ": " ++ fault.message
  | invalidFormat => "invalid config format: " ++ mismatch
  | invalidDiscriminator name => s!"discriminator field name '{name}' is not a usable TypeScript identifier"

/-- The reasons behind an error, the nearest first. -/
def causes : ConfigError → List String
  | unreadable _ fault => [fault.message]
  | invalidFormat => [mismatch]
  | invalidDiscriminator _ => []

end ConfigError

/-- The settings in a document; what is not given keeps its default. -/
def Format.config {ν : Type} (format : Format ν) : Nat → ν → Option Config
  | 0, _ => none
  | depth + 1, value =>
    match format.slotsOf ["discriminator-field-name", "default-long-representation"] value with
    | some [discriminator, longForm] => do
      let discriminator ← Format.defaulted ({} : Config).discriminator format.text? discriminator
      let longForm ← Format.defaulted ({} : Config).longForm (format.longForm depth) longForm
      return { discriminator, longForm }
    | _ => none

namespace Config

/-- Settings that can be used. -/
def validate (config : Config) : Except ConfigError Config :=
  if config.isValid then .ok config else .error (.invalidDiscriminator config.discriminator)

/-- The settings in a YAML text. -/
def ofYamlText (text : String) : Except ConfigError Config :=
  match (Yaml.parse? text).bind (Yaml.format.config Yaml.format.depth) with
  | some config => config.validate
  | none => .error .invalidFormat

/-- The settings in a file. -/
def load {m : Type → Type} [Monad m] [FileStore m] (path : String) : m (Except ConfigError Config) := do
  match ← readText path with
  | .error fault => return .error (.unreadable path fault)
  | .ok text => return ofYamlText text

/-- Settings with some values replaced, checked. -/
def withOverrides (config : Config) (discriminator : Option String) (longForm : Option LongForm) :
    Except ConfigError Config :=
  (config.override discriminator longForm).validate

end Config

end ProtoClass
