import ProtoClass.Schema.Scalar
import ProtoClass.TypeScript.Lexical

/-!
# Settings of the generator

The property that tells the members of a oneof apart, and the form of 64-bit integers.  Settings can be used if their
discriminator can be written as a property (`Config.isValid`).
-/

namespace ProtoClass

/-- The settings of the generator. -/
structure Config where
  /-- the property that tells the members of a oneof apart -/
  discriminator : String := "kind"
  /-- the form of 64-bit integers whose field does not choose one -/
  longForm : LongForm := .string
  deriving DecidableEq

namespace Config

/-- The discriminator is an identifier and not reserved. -/
def isValid (config : Config) : Bool :=
  TypeScript.isIdentifier config.discriminator && !TypeScript.isReserved config.discriminator

/-- Settings with some values replaced. -/
def override (config : Config) (discriminator : Option String) (longForm : Option LongForm) : Config :=
  ⟨discriminator.getD config.discriminator, longForm.getD config.longForm⟩

end Config

end ProtoClass
