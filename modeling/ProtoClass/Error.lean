/-!
# Generation errors

The ways in which a schema can fail to become code, and the sentences that report them.
-/

namespace ProtoClass

/-- Why code cannot be generated. -/
inductive GenError where
  /-- the field has a type that generated code cannot hold -/
  | unsupportedKind (message field kind : String)
  /-- the field names a oneof that its message does not declare -/
  | missingOneof (message field oneof : String)
  /-- the message has no field with the number -/
  | missingField (message : String) (number : UInt32)
  /-- nothing is declared under the name -/
  | unknownType (identity : String)
  /-- the symbol is registered already, with another name or for another file -/
  | symbolConflict (name existing identity : String)
  /-- the member of a oneof has the name of the property that tells the members apart -/
  | discriminatorCollision (message oneof field : String)
  deriving DecidableEq

namespace GenError

def message : GenError → String
  | unsupportedKind message field kind => s!"field '{message}.{field}' has unsupported kind '{kind}'"
  | missingOneof message field oneof =>
    s!"field '{message}.{field}' names oneof '{oneof}' which the message does not declare"
  | missingField message number => s!"message '{message}' has no field with number {number}"
  | unknownType identity => s!"type '{identity}' is not known to the descriptor pool or symbol table"
  | symbolConflict name existing identity =>
    s!"'{identity}' is already registered as '{existing}', cannot register it again as '{name}'"
  | discriminatorCollision message oneof field =>
    s!"oneof '{message}.{oneof}' has member '{field}' whose name collides with the discriminator"

end GenError

end ProtoClass
