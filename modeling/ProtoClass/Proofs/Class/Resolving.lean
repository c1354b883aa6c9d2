import ProtoClass.Module.Generator
import ProtoClass.Proofs.Symbol.Resolving

/-!
# Making declarations only resolves symbols

Classes and enums are made of a schema and of the names that symbols have where the code stands.  Whatever the schema
and the settings, making them does nothing but resolve these symbols (`classOf_resolving`, `fileDecls_resolving`).
-/

namespace ProtoClass

namespace TypeContext

variable (context : TypeContext)

theorem elementType_resolving (message : Identity) (field : ResolvedField) (type : ResolvedType) :
    Gen.Resolving context.scope (context.elementType message field type) := by
  cases type with
  | scalar kind => exact .pure _
  | enum identity => exact .resolve identity .enum fun _ => .pure _
  | message identity => exact .resolve identity .message fun _ => .pure _
  | map key value => exact .throw _
  | group name => exact .throw _

theorem mapType_resolving (message : Identity) (field : ResolvedField) (key : Scalar) (value : ResolvedType) :
    Gen.Resolving context.scope (context.mapType message field key value) := by
  unfold mapType entryTypes
  split
  · exact (context.elementType_resolving message field value).returning.returning
  · exact .throw _

theorem baseType_resolving (message : Identity) (field : ResolvedField) :
    Gen.Resolving context.scope (context.baseType message field) := by
  unfold baseType
  split
  · exact context.mapType_resolving message field _ _
  · exact context.elementType_resolving message field _

theorem oneofUnion_resolving (group : OneofGroup) : Gen.Resolving context.scope (context.oneofUnion group) := by
  have hmember : ∀ member, Gen.Resolving context.scope (context.memberVariant group member) := by
    intro member
    unfold memberVariant
    split
    · exact .throw _
    · exact (context.baseType_resolving group.message member).returning
  exact (Gen.Resolving.mapM fun member _ => hmember member).returning

variable (message : ResolvedMessage) (source : MessageDecl)

theorem fieldParam_resolving (decl : FieldDecl) (field : ResolvedField) :
    Gen.Resolving context.scope (context.fieldParam message decl field) :=
  (context.baseType_resolving message.identity field).returning.returning

theorem oneofParam_resolving (field : ResolvedField) (oneof : String) :
    Gen.Resolving context.scope (context.oneofParam message source field oneof) := by
  refine (Gen.Resolving.ofExcept _ _).bind fun group => ?_
  split
  · exact .throw _
  · exact (context.oneofUnion_resolving group).returning

theorem params_resolving (done : List String) (fields : List ResolvedField) :
    Gen.Resolving context.scope (context.params message source done fields) := by
  induction fields generalizing done with
  | nil => exact .pure []
  | cons field rest ih =>
    unfold params
    split
    · exact .throw _
    · exact (context.fieldParam_resolving message _ field).bind fun _ => (ih done).returning
    · split
      · exact ih done
      · exact (context.oneofParam_resolving message source field _).bind fun _ => (ih _).returning

theorem classDecl_resolving : Gen.Resolving context.scope (context.classDecl message source) :=
  .resolve message.identity .constructorClass fun _ =>
    (context.params_resolving message source [] message.fields).returning

end TypeContext

namespace Catalog

variable (catalog : Catalog) (context : TypeContext)

theorem classOf_resolving (entry : Entry MessageDecl) : Gen.Resolving context.scope (catalog.classOf context entry) :=
  (Gen.Resolving.ofExcept _ _).bind fun message => context.classDecl_resolving message entry.decl

theorem fileDecls_resolving (index : Nat) : Gen.Resolving context.scope (catalog.fileDecls context index) := by
  have henum : ∀ entry, Gen.Resolving context.scope (namedEnum context entry) :=
    fun entry => .resolve entry.identity .enum fun _ => .pure _
  have hclass : ∀ entry, Gen.Resolving context.scope (catalog.namedClass context entry) :=
    fun entry => (catalog.classOf_resolving context entry).bind fun _ =>
      .resolve entry.identity .message fun _ => .pure _
  exact (Gen.Resolving.mapM fun entry _ => henum entry).bind fun _ =>
    (Gen.Resolving.mapM fun entry _ => hclass entry).returning

end Catalog

end ProtoClass
