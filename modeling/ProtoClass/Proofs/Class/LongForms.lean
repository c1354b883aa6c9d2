import ProtoClass.Module.Generator
import ProtoClass.Proofs.Class.Shape
import ProtoClass.Proofs.Resolution.Message

/-!
# What the form of 64-bit integers can change

The settings choose a form for 64-bit integers.  Here the classes of a schema are looked at under all forms at once, as
families: a family of types has one type for every form.

* Making classes fails under all forms with one error or succeeds under all of them (`Gen.Uniform`,
  `classDecl_uniform`).
* What is made under two forms differs in types only, and only where the schema has a 64-bit integer whose field does
  not choose its own form: there the type is that of the form (`ResolvedType.Varies`).  Keys of maps never differ.

`classes_vary_at_longs` says this of all classes of a schema.
-/

namespace ProtoClass

open TypeScript (TypeExpr)

namespace Gen

variable {ι α β : Type}

/-- The steps of a family all fail with one error, or all succeed and make a family with the property; either way they
leave one table behind. -/
def Uniform (steps : ι → Gen α) (good : (ι → α) → Prop) : Prop :=
  ∀ table, (∃ e later, ∀ i, (steps i).run table = (.error e, later)) ∨
    ∃ family later, good family ∧ ∀ i, (steps i).run table = (.ok (family i), later)

namespace Uniform

variable {steps : ι → Gen α} {good : (ι → α) → Prop} {good' : (ι → β) → Prop}

theorem pure {family : ι → α} (h : good family) : Uniform (fun i => pure (family i)) good :=
  fun table => Or.inr ⟨family, table, h, fun _ => rfl⟩

theorem throw (e : GenError) : Uniform (fun _ => throw e) good :=
  fun table => Or.inl ⟨e, table, fun _ => rfl⟩

theorem bind {next : ι → α → Gen β} (h : Uniform steps good)
    (h' : ∀ family, good family → Uniform (fun i => next i (family i)) good') :
    Uniform (fun i => steps i >>= next i) good' := by
  intro table
  rcases h table with ⟨e, later, hrun⟩ | ⟨family, middle, hgood, hrun⟩
  · exact Or.inl ⟨e, later, fun i => run_bind_of_error (hrun i)⟩
  · rcases h' family hgood middle with ⟨e, later, hnext⟩ | ⟨family', later, hgood', hnext⟩
    · exact Or.inl ⟨e, later, fun i => (run_bind_of_ok (hrun i)).trans (hnext i)⟩
    · exact Or.inr ⟨family', later, hgood', fun i => (run_bind_of_ok (hrun i)).trans (hnext i)⟩

/-- A first part that does not depend on the index. -/
theorem after (step : Gen α) {next : ι → α → Gen β} (h : ∀ a, Uniform (fun i => next i a) good') :
    Uniform (fun i => step >>= next i) good' := by
  have hstep : Uniform (fun _ : ι => step) fun family => ∃ a, family = fun _ => a := by
    intro table
    rcases hrun : step.run table with ⟨e | a, later⟩
    · exact Or.inl ⟨e, later, fun _ => hrun⟩
    · exact Or.inr ⟨fun _ => a, later, ⟨a, rfl⟩, fun _ => hrun⟩
  refine hstep.bind ?_
  rintro _ ⟨a, rfl⟩
  exact h a

theorem returning {f : ι → α → β} (h : Uniform steps good)
    (hgood : ∀ family, good family → good' fun i => f i (family i)) :
    Uniform (fun i => steps i >>= fun a => Pure.pure (f i a)) good' :=
  h.bind fun family hfamily => Uniform.pure (hgood family hfamily)

theorem mapM {step : ι → α → Gen β} {good : α → (ι → β) → Prop} {l : List α}
    (h : ∀ a ∈ l, Uniform (fun i => step i a) (good a)) :
    Uniform (fun i => l.mapM (step i)) fun family =>
      ∃ families, List.Forall₂ good l families ∧ family = fun i => families.map (· i) := by
  induction l with
  | nil => exact Uniform.pure ⟨[], .nil, rfl⟩
  | cons a rest ih =>
    simp only [List.mapM_cons]
    refine (h a List.mem_cons_self).bind fun first hfirst => ?_
    refine (ih fun a' ha' => h a' (List.mem_cons_of_mem _ ha')).returning ?_
    rintro _ ⟨others, hothers, rfl⟩
    exact ⟨first :: others, .cons hfirst hothers, rfl⟩

end Uniform

end Gen

/-! ### Families of types and declarations -/

/-- The types that values of one sort have under all forms, given the form that the field chooses: a 64-bit integer is a
string, a number or a bigint, as the form says, unless the field chooses one, and nothing else depends on the form. -/
inductive ResolvedType.Varies (choice : Option LongForm) : ResolvedType → (LongForm → TypeExpr) → Prop
  | long {kind : Scalar} {type : LongForm → TypeExpr} (hkind : kind.isLong = true) (hchoice : choice = none)
      (hstring : type .string = .primitive .string) (hnumber : type .number = .primitive .number)
      (hbigint : type .bigint = .primitive .bigint) : Varies choice (.scalar kind) type
  | scalar {kind : Scalar} (hkind : kind.isLong = true → choice ≠ none) (type : TypeExpr) :
      Varies choice (.scalar kind) fun _ => type
  | enum (identity : Identity) (type : TypeExpr) : Varies choice (.enum identity) fun _ => type
  | message (identity : Identity) (type : TypeExpr) : Varies choice (.message identity) fun _ => type
  | map (key : Scalar) (keyType : TypeExpr) {value : ResolvedType} {type : LongForm → TypeExpr}
      (hvalue : value.Varies choice type) : Varies choice (.map key value) fun form => .index keyType (type form)

/-- The types of a field under all forms; those of a repeated field are arrays. -/
def ResolvedField.TypeVaries (field : ResolvedField) (type : LongForm → TypeExpr) : Prop :=
  ∃ value, field.type.Varies field.longForm value ∧
    type = fun form => if field.repeated then .array (value form) else value form

/-- The cases of a member under all forms. -/
def Variant.Varies (member : ResolvedField) (family : LongForm → Variant) : Prop :=
  ∃ type, member.type.Varies member.longForm type ∧
    family = fun form => .member member.tag member.localName (type form) member.optional

/-- The unions of a oneof under all forms. -/
def OneofUnion.Varies (group : OneofGroup) (family : LongForm → OneofUnion) : Prop :=
  ∃ discriminator cases, List.Forall₂ Variant.Varies group.members cases ∧
    family = fun form => ⟨group.name, group.localName, discriminator, cases.map (· form) ++ [.empty]⟩

/-- The parameters at the place of a field under all forms. -/
def Param.Varies (message : ResolvedMessage) (field : ResolvedField) (family : LongForm → Param) : Prop :=
  match field.oneof with
  | none => ∃ docs type, field.TypeVaries type ∧
      family = fun form => ⟨field.localName, type form, field.optional, docs, .field field.tag⟩
  | some _ => ∃ docs group union, message.group field = .ok group ∧ OneofUnion.Varies group union ∧
      family = fun form => ⟨group.localName, (union form).type, false, docs, .oneof (union form)⟩

/-- The classes of a message under all forms. -/
def ClassDecl.Varies (message : ResolvedMessage) (family : LongForm → ClassDecl) : Prop :=
  ∃ name docs params, List.Forall₂ (Param.Varies message) (ResolvedField.heads [] message.fields) params ∧
    family = fun form => ⟨message.identity, name, docs, params.map (· form)⟩

/-! ### Making classes under all forms -/

theorem Scalar.type_of_isLong {kind : Scalar} (h : kind.isLong = true) (form : LongForm) :
    kind.type form = form.type := by
  cases kind <;> simp_all [Scalar.isLong, Scalar.type]

theorem Scalar.type_of_not_isLong {kind : Scalar} (h : kind.isLong = false) (form form' : LongForm) :
    kind.type form = kind.type form' := by
  cases kind <;> simp_all [Scalar.isLong, Scalar.type]

/-- The types of a scalar under all forms. -/
theorem Scalar.varies (choice : Option LongForm) (kind : Scalar) :
    (ResolvedType.scalar kind).Varies choice fun form => kind.type (choice.getD form) := by
  rcases choice with _ | chosen
  · rcases hkind : kind.isLong with _ | _
    · have hconst : (fun form => kind.type form) = fun _ => kind.type .string :=
        funext fun form => kind.type_of_not_isLong hkind form .string
      exact hconst ▸ .scalar (by simp [hkind]) _
    · have htype := kind.type_of_isLong hkind
      exact .long hkind rfl (htype .string) (htype .number) (htype .bigint)
  · exact .scalar (by simp) (kind.type chosen)

namespace TypeContext

variable (scope : Scope) (discriminator : String)

/-- The context with the given form of 64-bit integers. -/
abbrev under (scope : Scope) (discriminator : String) (form : LongForm) : TypeContext :=
  ⟨scope, ⟨discriminator, form⟩⟩

theorem elementType_uniform (message : Identity) (field : ResolvedField) (type : ResolvedType) :
    Gen.Uniform (fun form => (under scope discriminator form).elementType message field type)
      (type.Varies field.longForm) := by
  cases type with
  | scalar kind => exact Gen.Uniform.pure (kind.varies field.longForm)
  | enum identity =>
    show Gen.Uniform (fun _ => Gen.resolve scope identity .enum >>= fun name => pure (TypeExpr.reference name)) _
    exact .after _ fun name => .pure (.enum identity (.reference name))
  | message identity =>
    show Gen.Uniform (fun _ => Gen.resolve scope identity .message >>= fun name => pure (TypeExpr.reference name)) _
    exact .after _ fun name => .pure (.message identity (.reference name))
  | map key value => exact .throw _
  | group name => exact .throw _

theorem baseType_uniform (message : Identity) (field : ResolvedField) :
    Gen.Uniform (fun form => (under scope discriminator form).baseType message field)
      (field.type.Varies field.longForm) := by
  unfold baseType
  split
  · rename_i key value htype
    rw [htype]
    unfold mapType entryTypes
    split
    · simp only [bind_assoc, pure_bind]
      exact (elementType_uniform scope discriminator message field value).returning
        fun type hvalue => .map key key.keyType hvalue
    · exact .throw _
  · exact elementType_uniform scope discriminator message field field.type

theorem fieldType_uniform (message : Identity) (field : ResolvedField) :
    Gen.Uniform (fun form => (under scope discriminator form).fieldType message field) field.TypeVaries :=
  (baseType_uniform scope discriminator message field).returning fun value hvalue => ⟨value, hvalue, rfl⟩

theorem memberVariant_uniform (group : OneofGroup) (member : ResolvedField) :
    Gen.Uniform (fun form => (under scope discriminator form).memberVariant group member) (Variant.Varies member) := by
  unfold memberVariant
  by_cases hname : member.localName = discriminator
  · simp only [hname, if_true]
    exact .throw _
  · simp only [hname, if_false]
    exact (baseType_uniform scope discriminator group.message member).returning fun type htype => ⟨type, htype, rfl⟩

theorem oneofUnion_uniform (group : OneofGroup) :
    Gen.Uniform (fun form => (under scope discriminator form).oneofUnion group) (OneofUnion.Varies group) := by
  refine (Gen.Uniform.mapM fun member _ => memberVariant_uniform scope discriminator group member).returning ?_
  rintro _ ⟨cases, hcases, rfl⟩
  exact ⟨discriminator, cases, hcases, rfl⟩

variable (message : ResolvedMessage) (source : MessageDecl)

theorem fieldParam_uniform (decl : FieldDecl) {field : ResolvedField} (hfield : field.oneof = none) :
    Gen.Uniform (fun form => (under scope discriminator form).fieldParam message decl field)
      (Param.Varies message field) := by
  refine (fieldType_uniform scope discriminator message.identity field).returning fun type htype => ?_
  unfold Param.Varies
  rw [hfield]
  exact ⟨.ofBoth decl.commented, type, htype, rfl⟩

theorem oneofParam_uniform {field : ResolvedField} {oneof : String} (hfield : field.oneof = some oneof) :
    Gen.Uniform (fun form => (under scope discriminator form).oneofParam message source field oneof)
      (Param.Varies message field) := by
  unfold oneofParam
  rcases hgroup : message.group field with e | group
  · exact .throw e
  rcases source.oneof? oneof with _ | decl
  · exact .throw _
  · refine (oneofUnion_uniform scope discriminator group).returning fun union hunion => ?_
    unfold Param.Varies
    rw [hfield]
    exact ⟨.ofLeading decl.commented, group, union, hgroup, hunion, rfl⟩

theorem params_uniform (done : List String) (fields : List ResolvedField) :
    Gen.Uniform (fun form => (under scope discriminator form).params message source done fields) fun family =>
      ∃ params, List.Forall₂ (Param.Varies message) (ResolvedField.heads done fields) params ∧
        family = fun form => params.map (· form) := by
  induction fields generalizing done with
  | nil => exact Gen.Uniform.pure ⟨[], .nil, rfl⟩
  | cons field rest ih =>
    -- a parameter at the place of the field, and the others after it
    have hcons : ∀ {step : LongForm → Gen Param} {done' : List String},
        Gen.Uniform step (Param.Varies message field) →
        Gen.Uniform (fun form => step form >>= fun param =>
            (under scope discriminator form).params message source done' rest >>= fun others => pure (param :: others))
          fun family => ∃ params,
            List.Forall₂ (Param.Varies message) (field :: ResolvedField.heads done' rest) params ∧
              family = fun form => params.map (· form) := by
      intro step done' hstep
      refine hstep.bind fun param hparam => (ih done').returning ?_
      rintro _ ⟨others, hothers, rfl⟩
      exact ⟨param :: others, .cons hparam hothers, rfl⟩
    unfold params ResolvedField.heads
    rcases source.field? field.tag with _ | decl
    · exact .throw _
    rcases hfield : field.oneof with _ | oneof
    · exact hcons (fieldParam_uniform scope discriminator message decl hfield)
    · dsimp only
      split
      · exact ih done
      · exact hcons (oneofParam_uniform scope discriminator message source hfield)

theorem classDecl_uniform :
    Gen.Uniform (fun form => (under scope discriminator form).classDecl message source) (ClassDecl.Varies message) := by
  show Gen.Uniform (fun form => Gen.resolve scope message.identity .constructorClass >>= fun name =>
    (under scope discriminator form).params message source [] message.fields >>= fun params =>
      pure (⟨message.identity, name, .ofBoth source.commented, params⟩ : ClassDecl)) _
  refine .after _ fun name => (params_uniform scope discriminator message source [] message.fields).returning ?_
  rintro _ ⟨params, hparams, rfl⟩
  exact ⟨name, .ofBoth source.commented, params, hparams, rfl⟩

end TypeContext

namespace Catalog

variable {catalog : Catalog} {entry : Entry MessageDecl} {discriminator : String}

/-- A resolved field chooses the form that the declared one does. -/
private theorem resolveField_longForm {given given' : PropertyNames} {field : FieldDecl} {resolved : ResolvedField}
    (h : resolveField catalog entry discriminator given field = .ok (resolved, given')) :
    resolved.longForm = field.longForm := by
  unfold resolveField at h
  rcases htype : catalog.resolveType entry.identity field.type with e | type <;> rw [htype] at h <;> cases h
  rfl

theorem resolve_longForms (hcatalog : catalog.Coherent) (hentry : entry ∈ catalog.messages) {message : ResolvedMessage}
    (h : catalog.resolve entry.identity discriminator = .ok message) :
    message.fields.map (·.longForm) = entry.decl.fields.map (·.longForm) := by
  rw [eq_comm, ← List.forall₂_eq_eq_eq, List.forall₂_map_left_iff, List.forall₂_map_right_iff]
  exact forall₂_of_resolve (fun hfield => (resolveField_longForm hfield).symm) hcatalog hentry h

/-- The classes of a message under all forms. -/
def ClassVaries (catalog : Catalog) (discriminator : String) (entry : Entry MessageDecl)
    (family : LongForm → ClassDecl) : Prop :=
  ∃ message, catalog.resolve entry.identity discriminator = .ok message ∧
    message.fields.map (·.longForm) = entry.decl.fields.map (·.longForm) ∧ ClassDecl.Varies message family

theorem classOf_uniform (hcatalog : catalog.Coherent) (scope : Scope) (discriminator : String)
    (hentry : entry ∈ catalog.messages) :
    Gen.Uniform (fun form => catalog.classOf (TypeContext.under scope discriminator form) entry)
      (catalog.ClassVaries discriminator entry) := by
  show Gen.Uniform (fun form => Gen.ofExcept (catalog.resolve entry.identity discriminator) >>= fun message =>
    (TypeContext.under scope discriminator form).classDecl message entry.decl) _
  rcases hresolve : catalog.resolve entry.identity discriminator with e | message
  · exact .throw e
  · intro table
    rcases TypeContext.classDecl_uniform scope discriminator message entry.decl table with
      hfails | ⟨family, later, hfamily, hrun⟩
    · exact Or.inl hfails
    · have hforms := resolve_longForms hcatalog hentry hresolve
      exact Or.inr ⟨family, later, ⟨message, hresolve, hforms, hfamily⟩, hrun⟩

end Catalog

/-- Classes of a schema under all forms of 64-bit integers: making them fails with one error under all forms, or
succeeds under all, and then any two forms give the same classes but for the types of 64-bit integers whose field does
not choose a form, which are those of the forms. -/
theorem Generator.classes_vary_at_longs (schema : Schema) (discriminator : String) (table : SymbolTable) :
    (∃ e, ∀ form, ((Generator.mk schema ⟨discriminator, form⟩).classes.run table).1 = .error e) ∨
      ∃ families : List (LongForm → ClassDecl),
        (∀ form, ((Generator.mk schema ⟨discriminator, form⟩).classes.run table).1 = .ok (families.map (· form))) ∧
        List.Forall₂ ((Catalog.ofSchema schema).ClassVaries discriminator) (Catalog.ofSchema schema).messages
          families := by
  have hcatalog := Catalog.coherent_ofSchema schema
  have hclass : ∀ entry ∈ (Catalog.ofSchema schema).messages,
      Gen.Uniform (fun form => (Catalog.ofSchema schema).classOf (TypeContext.under .table discriminator form) entry)
        ((Catalog.ofSchema schema).ClassVaries discriminator entry) :=
    fun _ hentry => Catalog.classOf_uniform hcatalog .table discriminator hentry
  have hclasses := Gen.Uniform.after (Catalog.ofSchema schema).reserve fun _ => Gen.Uniform.mapM hclass
  rcases hclasses table with ⟨e, later, hrun⟩ | ⟨_, later, ⟨families, hfamilies, rfl⟩, hrun⟩
  · exact Or.inl ⟨e, fun form => congrArg Prod.fst (hrun form)⟩
  · exact Or.inr ⟨families, fun form => congrArg Prod.fst (hrun form), hfamilies⟩

end ProtoClass
