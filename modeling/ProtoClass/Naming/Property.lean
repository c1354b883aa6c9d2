import ProtoClass.Naming.Fresh
import ProtoClass.Text.Camel
import ProtoClass.TypeScript.Lexical

/-!
# Property names

Fields and oneofs become properties named in camel case.  Inside one message no two of them get the same name:
underscores are added until a name is free.
-/

namespace ProtoClass.Naming

/-- The property name for a schema name: camel case, with an underscore after a reserved word.  A name of which camel
case leaves nothing stays as it is. -/
def propertyName (schemaName : String) : String :=
  let camel := Text.camelCase schemaName
  TypeScript.escapeReserved (if camel.isEmpty then schemaName else camel)

/-- The class name for the generated name of a message. -/
def className (name : String) : String :=
  name ++ "Class"

/-- The property names given out so far. -/
structure LocalNames where
  used : List String := []

/-- Gives out the property name for a schema name, also keeping clear of `reserved`. -/
def LocalNames.allocate (names : LocalNames) (schemaName : String) (reserved : Option String) :
    String × LocalNames :=
  let name := firstFree (underscored (propertyName schemaName)) (reserved.toList ++ names.used)
  (name, ⟨name :: names.used⟩)

end ProtoClass.Naming
