import ProtoClass.Class.Decl
import ProtoClass.Proofs.Symbol.Gen

/-!
# What a class is made of

A parameter stands at the place of every field outside the oneofs, and of the first member of every oneof
(`ResolvedField.heads`).  Whatever class is made of a message, its parameters stand for these fields in order
(`classDecl_makes`), and the union of a oneof has a case for each of its members and the empty one at the end
(`oneofUnion_makes`).
-/

namespace ProtoClass

/-- The fields at whose place a parameter stands, given the oneofs that have theirs already. -/
def ResolvedField.heads (done : List String) : List ResolvedField → List ResolvedField
  | [] => []
  | field :: rest =>
    match field.oneof with
    | none => field :: heads done rest
    | some oneof => if done.contains oneof then heads done rest else field :: heads (oneof :: done) rest

/-- The case of a member, with its number and its property name. -/
def Variant.IsCaseOf (member : ResolvedField) (variant : Variant) : Prop :=
  ∃ type, variant = .member member.tag member.localName type member.optional

/-- The union of a oneof. -/
structure OneofUnion.IsUnionOf (discriminator : String) (group : OneofGroup) (union : OneofUnion) : Prop where
  name : union.name = group.name
  localName : union.localName = group.localName
  variants : ∃ cases, List.Forall₂ Variant.IsCaseOf group.members cases ∧ union.variants = cases ++ [.empty]
  clear : ∀ member ∈ group.members, member.localName ≠ discriminator
  discriminator : union.discriminator = discriminator

/-- The parameter at the place of a field: its own, or that of its oneof. -/
def Param.StandsAt (discriminator : String) (message : ResolvedMessage) (source : MessageDecl) (field : ResolvedField)
    (param : Param) : Prop :=
  match field.oneof with
  | none => ∃ decl type, source.field? field.tag = some decl ∧
      param = ⟨field.localName, type, field.optional, .ofBoth decl.commented, .field field.tag⟩
  | some oneof => ∃ group decl union, message.group field = .ok group ∧ source.oneof? oneof = some decl ∧
      union.IsUnionOf discriminator group ∧
      param = ⟨group.localName, union.type, false, .ofLeading decl.commented, .oneof union⟩

namespace TypeContext

variable (context : TypeContext)

theorem memberVariant_makes (group : OneofGroup) (member : ResolvedField) :
    Gen.Makes (context.memberVariant group member) fun variant =>
      member.localName ≠ context.config.discriminator ∧ variant.IsCaseOf member := by
  unfold memberVariant
  split
  · exact Gen.Makes.throw
  · rename_i hclear
    exact (Gen.Makes.anything _).bind fun type _ => Gen.Makes.pure ⟨hclear, type, rfl⟩

theorem oneofUnion_makes (group : OneofGroup) :
    Gen.Makes (context.oneofUnion group) (OneofUnion.IsUnionOf context.config.discriminator group) := by
  have hmembers := Gen.Makes.mapM fun member (_ : member ∈ group.members) => context.memberVariant_makes group member
  refine hmembers.bind fun cases hcases => ?_
  obtain ⟨hclear, hcases⟩ := (List.forall₂_and_left _ _).1 hcases
  exact Gen.Makes.pure ⟨rfl, rfl, ⟨cases, hcases, rfl⟩, hclear, rfl⟩

variable (message : ResolvedMessage) (source : MessageDecl)

theorem fieldParam_makes {decl : FieldDecl} {field : ResolvedField} (hdecl : source.field? field.tag = some decl)
    (hfield : field.oneof = none) :
    Gen.Makes (context.fieldParam message decl field)
      (Param.StandsAt context.config.discriminator message source field) := by
  refine (Gen.Makes.anything _).bind fun type _ => Gen.Makes.pure ?_
  unfold Param.StandsAt
  rw [hfield]
  exact ⟨decl, type, hdecl, rfl⟩

theorem oneofParam_makes {field : ResolvedField} {oneof : String} (hfield : field.oneof = some oneof) :
    Gen.Makes (context.oneofParam message source field oneof)
      (Param.StandsAt context.config.discriminator message source field) := by
  refine (Gen.Makes.ofExcept fun _ hgroup => hgroup).bind fun group hgroup => ?_
  split
  · exact Gen.Makes.throw
  · rename_i decl hdecl
    refine (context.oneofUnion_makes group).bind fun union hunion => Gen.Makes.pure ?_
    unfold Param.StandsAt
    rw [hfield]
    exact ⟨group, decl, union, hgroup, hdecl, hunion, rfl⟩

/-- What is made at the place of each field makes up the parameters, in order. -/
theorem params_makes_each {good : ResolvedField → Param → Prop}
    (hfield : ∀ {decl field}, source.field? field.tag = some decl → field.oneof = none →
      Gen.Makes (context.fieldParam message decl field) (good field))
    (honeof : ∀ {field oneof}, field.oneof = some oneof →
      Gen.Makes (context.oneofParam message source field oneof) (good field))
    (done : List String) (fields : List ResolvedField) :
    Gen.Makes (context.params message source done fields)
      (List.Forall₂ good (ResolvedField.heads done fields)) := by
  induction fields generalizing done with
  | nil => exact Gen.Makes.pure List.Forall₂.nil
  | cons field rest ih =>
    unfold params ResolvedField.heads
    rcases hdecl : source.field? field.tag with _ | decl
    · exact Gen.Makes.throw
    rcases hplace : field.oneof with _ | oneof
    · exact (hfield hdecl hplace).bind fun param hparam =>
        (ih done).bind fun others hothers => Gen.Makes.pure (List.Forall₂.cons hparam hothers)
    · dsimp only
      split
      · exact ih done
      · exact (honeof hplace).bind fun param hparam =>
          (ih (oneof :: done)).bind fun others hothers => Gen.Makes.pure (List.Forall₂.cons hparam hothers)

theorem params_makes (done : List String) (fields : List ResolvedField) :
    Gen.Makes (context.params message source done fields)
      (List.Forall₂ (Param.StandsAt context.config.discriminator message source)
        (ResolvedField.heads done fields)) :=
  context.params_makes_each message source (context.fieldParam_makes message source)
    (context.oneofParam_makes message source) done fields

/-- The class of a message. -/
theorem classDecl_makes :
    Gen.Makes (context.classDecl message source) fun decl =>
      decl.identity = message.identity ∧ decl.docs = .ofBoth source.commented ∧
        List.Forall₂ (Param.StandsAt context.config.discriminator message source)
          (ResolvedField.heads [] message.fields) decl.params := by
  exact (Gen.Makes.anything _).bind fun name _ =>
    (context.params_makes message source [] message.fields).bind fun params hparams =>
      Gen.Makes.pure ⟨rfl, rfl, hparams⟩

end TypeContext

end ProtoClass
