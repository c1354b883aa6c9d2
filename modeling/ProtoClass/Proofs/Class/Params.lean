import ProtoClass.Proofs.Class.References

/-!
# The parameters of a class

The parameters of a class show the fields of its message, all of them and each once: the members of a oneof are taken
together at the place of the first of them (`ResolvedMessage.inOrder`), which only permutes the fields
(`inOrder_perm`).  So the class is made exactly if all fields are fit for it, whatever their order
(`classDecl_refers`).
-/

namespace ProtoClass

open SymbolTable

namespace ResolvedMessage

/-- The members of a oneof. -/
def membersOf (message : ResolvedMessage) (oneof : String) : List ResolvedField :=
  message.fields.filter (·.oneof == some oneof)

/-- The fields in the order of the parameters, given the oneofs that have theirs already. -/
def inOrder (message : ResolvedMessage) (done : List String) : List ResolvedField → List ResolvedField
  | [] => []
  | field :: rest =>
    match field.oneof with
    | none => field :: message.inOrder done rest
    | some oneof =>
      if done.contains oneof then message.inOrder done rest
      else message.membersOf oneof ++ message.inOrder (oneof :: done) rest

private def isOpen (done : List String) (field : ResolvedField) : Bool :=
  field.oneof.all fun oneof => !done.contains oneof

-- the members of a oneof and the fields that are still open after it make up those open before it
private theorem filter_isOpen_perm {done : List String} {oneof : String} (h : oneof ∉ done)
    (fields : List ResolvedField) :
    (fields.filter (·.oneof == some oneof) ++ fields.filter (isOpen (oneof :: done))).Perm
      (fields.filter (isOpen done)) := by
  have hmembers : fields.filter (·.oneof == some oneof) =
      (fields.filter (isOpen done)).filter (·.oneof == some oneof) := by
    rw [List.filter_filter]
    refine List.filter_congr fun field _ => ?_
    rcases hfield : field.oneof with _ | other
    · simp
    · by_cases heq : other = oneof <;> simp [isOpen, hfield, heq, h]
  have hopen : fields.filter (isOpen (oneof :: done)) =
      (fields.filter (isOpen done)).filter fun field => !(field.oneof == some oneof) := by
    rw [List.filter_filter]
    refine List.filter_congr fun field _ => ?_
    rcases hfield : field.oneof with _ | other
    · simp [isOpen, hfield]
    · by_cases heq : other = oneof <;> simp [isOpen, hfield, heq]
  rw [hmembers, hopen]
  exact List.filter_append_perm _ _

private theorem inOrder_perm_isOpen (message : ResolvedMessage) (done : List String) (fields : List ResolvedField)
    (h : ∀ oneof, oneof ∉ done → message.membersOf oneof = fields.filter (·.oneof == some oneof)) :
    (message.inOrder done fields).Perm (fields.filter (isOpen done)) := by
  induction fields generalizing done with
  | nil => exact List.Perm.nil
  | cons field rest ih =>
    -- a oneof other than the field's has all its members in the rest
    have hrest : ∀ oneof, oneof ∉ done → field.oneof ≠ some oneof →
        message.membersOf oneof = rest.filter (·.oneof == some oneof) := by
      intro oneof hopen hother
      rw [h oneof hopen, List.filter_cons_of_neg (by simpa using hother)]
    unfold inOrder
    rcases hfield : field.oneof with _ | oneof
    · rw [List.filter_cons_of_pos (by simp [isOpen, hfield])]
      exact (ih done fun oneof hopen => hrest oneof hopen (by simp [hfield])).cons field
    · dsimp only
      by_cases hdone : oneof ∈ done
      · rw [if_pos (by simpa using hdone), List.filter_cons_of_neg (by simp [isOpen, hfield, hdone])]
        refine ih done fun other hopen => hrest other hopen ?_
        rw [hfield]
        rintro ⟨⟩
        exact hopen hdone
      · have hothers := ih (oneof :: done) fun other hopen => by
          rw [List.mem_cons, not_or] at hopen
          refine hrest other hopen.2 ?_
          rw [hfield]
          rintro ⟨⟩
          exact hopen.1 rfl
        rw [if_neg (by simpa using hdone), h oneof hdone, List.filter_cons_of_pos (by simp [hfield]),
          List.filter_cons_of_pos (by simp [isOpen, hfield, hdone]), List.cons_append]
        exact ((hothers.append_left _).trans (filter_isOpen_perm hdone rest)).cons field

/-- The parameters show every field once. -/
theorem inOrder_perm (message : ResolvedMessage) : (message.inOrder [] message.fields).Perm message.fields := by
  have h := message.inOrder_perm_isOpen [] message.fields fun _ _ => rfl
  rwa [List.filter_eq_self.2 fun field _ => by cases hfield : field.oneof <;> simp [isOpen, hfield]] at h

end ResolvedMessage

/-- A field of a resolved message that its class can show: the type is supported, and the oneof that the field names is
declared. -/
def MessageDecl.Fits (decl : MessageDecl) (field : ResolvedField) : Prop :=
  field.type.Supported ∧ ∀ oneof, field.oneof = some oneof → ∃ o, decl.oneof? oneof = some o

-- the fields of a oneof fit if it is declared and their types are supported
private theorem fits_membersOf {message : ResolvedMessage} {decl : MessageDecl} {field : ResolvedField}
    {oneof : String} (hfield : field ∈ message.membersOf oneof) :
    ((∃ o, decl.oneof? oneof = some o) ∧ ∀ member ∈ message.membersOf oneof, member.type.Supported) ↔
      ∀ member ∈ message.membersOf oneof, decl.Fits member := by
  have honeof : ∀ member ∈ message.membersOf oneof, member.oneof = some oneof :=
    fun member hmember => beq_iff_eq.1 (List.mem_filter.1 hmember).2
  constructor
  · rintro ⟨hdecl, hsupported⟩ member hmember
    refine ⟨hsupported member hmember, fun other hother => ?_⟩
    obtain rfl : oneof = other := Option.some.inj ((honeof member hmember).symm.trans hother)
    exact hdecl
  · intro hfits
    exact ⟨(hfits field hfield).2 oneof (honeof field hfield), fun member hmember => (hfits member hmember).1⟩

/-- What a list of parameters shows. -/
structure ShowsFields (names : SymbolKey → String) (fields : List ResolvedField) (params : List Param) : Prop where
  shown : params.flatMap Param.shown = fields.map (·.shown names)
  printed : ∀ param ∈ params, param.Printed

/-- A class shows the fields of a message, each with the types it refers to. -/
structure ClassDecl.Shows (decl : ClassDecl) (names : SymbolKey → String) (message : Identity)
    (fields : List (UInt32 × List SymbolKey)) : Prop where
  identity : decl.identity = message
  name : decl.name = names ⟨message, .constructorClass⟩
  shown : decl.shown.Perm (fields.map fun (number, keys) => (number, keys.map names))
  printed : ∀ param ∈ decl.params, param.Printed

namespace TypeContext

variable {catalog : Catalog} {entry : Entry MessageDecl} {context : TypeContext} {message : ResolvedMessage}

theorem fieldParam_refers (context : TypeContext) (message : ResolvedMessage) (decl : FieldDecl)
    (field : ResolvedField) :
    Gen.Refers context.scope (context.fieldParam message decl field) field.type.Supported field.type.keys
      fun names param => param.shown = [field.shown names] ∧ param.Printed := by
  refine (context.fieldType_refers message.identity field).returning ?_
  intro names type htype
  simp [Param.shown, Param.Printed, ResolvedField.shown, htype]

variable (h : Catalog.IsResolved catalog entry context.config.discriminator message)
  (htags : message.MembersKeepTags)

include h htags

theorem oneofParam_refers {field : ResolvedField} {oneof : String} (hfield : field.oneof = some oneof) :
    Gen.Refers context.scope (context.oneofParam message entry.decl field oneof)
      ((∃ o, entry.decl.oneof? oneof = some o) ∧ ∀ member ∈ message.membersOf oneof, member.type.Supported)
      ((message.membersOf oneof).flatMap (·.type.keys))
      fun names param => param.shown = (message.membersOf oneof).map (·.shown names) ∧ param.Printed := by
  have hclear : ∀ member ∈ message.membersOf oneof, member.localName ≠ context.config.discriminator := by
    intro member hmember
    obtain ⟨hmem, honeof⟩ := List.mem_filter.1 hmember
    obtain ⟨decl, _, hfrom⟩ := exists_left_of_forall₂ h.fields hmem
    exact hfrom.clear (by simp [beq_iff_eq.1 honeof])
  unfold oneofParam
  rcases h.group_spec htags hfield with ⟨hnone, hgroup⟩ | ⟨decl, localName, hdecl, hgroup⟩
  · rw [hgroup]
    exact .throw (by simp [hnone]) (Or.inr (Or.inr ⟨_, _, _, rfl⟩))
  · rw [hgroup, hdecl]
    show Gen.Refers _ (context.oneofUnion ⟨message.identity, oneof, localName, message.membersOf oneof⟩ >>= _) _ _ _
    refine ((context.oneofUnion_refers _ hclear).returning ?_).imp (by simp) (by simp) fun _ _ hshows => hshows
    intro names union hunion
    refine ⟨hunion, ?_⟩
    show union.type.references = (union.variants.flatMap Variant.shown).flatMap Prod.snd
    exact union.references_type

/-- The parameters for some fields of a message, in order. -/
theorem params_refers (done : List String) {fields : List ResolvedField} (hfields : fields ⊆ message.fields) :
    Gen.Refers context.scope (context.params message entry.decl done fields)
      (∀ field ∈ message.inOrder done fields, entry.decl.Fits field)
      ((message.inOrder done fields).flatMap (·.type.keys))
      fun names params => ShowsFields names (message.inOrder done fields) params := by
  induction fields generalizing done with
  | nil =>
    refine (Gen.Refers.pure context.scope []).imp (by simp [ResolvedMessage.inOrder])
      (by simp [ResolvedMessage.inOrder]) ?_
    rintro names _ rfl
    exact ⟨rfl, by simp⟩
  | cons field rest ih =>
    obtain ⟨hfield, hrest⟩ := List.cons_subset.1 hfields
    -- a field of the message is declared under its number
    obtain ⟨f, hf, hfrom⟩ := exists_left_of_forall₂ h.fields hfield
    have hdecl : (entry.decl.field? field.tag).isSome := by
      refine List.find?_isSome.2 ⟨f, hf, ?_⟩
      simp [hfrom.tag]
    obtain ⟨decl, hdecl⟩ := Option.isSome_iff_exists.1 hdecl
    unfold params ResolvedMessage.inOrder
    rcases honeof : field.oneof with _ | oneof
    · simp only [hdecl]
      refine ((context.fieldParam_refers message decl field).bind fun param => (ih done hrest).bind fun others =>
        Gen.Refers.pure context.scope (param :: others)).imp ?_ (by simp) ?_
      · simp [MessageDecl.Fits, honeof]
      · rintro names _ ⟨param, ⟨hshown, hprinted⟩, others, hothers, rfl⟩
        refine ⟨by rw [List.flatMap_cons, hshown, hothers.shown]; rfl, ?_⟩
        exact List.forall_mem_cons.2 ⟨hprinted, hothers.printed⟩
    · simp only [hdecl]
      by_cases hdone : done.contains oneof = true
      · rw [if_pos hdone, if_pos hdone]
        exact ih done hrest
      · rw [if_neg hdone, if_neg hdone]
        have hmember : field ∈ message.membersOf oneof := List.mem_filter.2 ⟨hfield, by simp [honeof]⟩
        refine ((oneofParam_refers h htags honeof).bind fun param => (ih (oneof :: done) hrest).bind fun others =>
          Gen.Refers.pure context.scope (param :: others)).imp ?_ (by simp) ?_
        · rw [fits_membersOf hmember, List.forall_mem_append, and_true]
        · rintro names _ ⟨param, ⟨hshown, hprinted⟩, others, hothers, rfl⟩
          refine ⟨by rw [List.flatMap_cons, hshown, hothers.shown, List.map_append], ?_⟩
          exact List.forall_mem_cons.2 ⟨hprinted, hothers.printed⟩

/-- The class of a resolved message is made exactly if every field fits. -/
theorem classDecl_refers :
    Gen.Refers context.scope (context.classDecl message entry.decl) (∀ field ∈ message.fields, entry.decl.Fits field)
      (⟨message.identity, .constructorClass⟩ :: message.fields.flatMap (·.type.keys))
      fun names decl =>
        decl.Shows names message.identity (message.fields.map fun field => (field.tag, field.type.keys)) := by
  have hperm := message.inOrder_perm
  have hclass := Gen.Refers.resolve context.scope ⟨message.identity, .constructorClass⟩
  refine (hclass.bind fun name => (params_refers h htags [] (List.Subset.refl _)).bind fun params =>
    Gen.Refers.pure context.scope
      (⟨message.identity, name, .ofBoth entry.decl.commented, params⟩ : ClassDecl)).imp ?_ ?_ ?_
  · simp [hperm.mem_iff]
  · simp [hperm.mem_iff]
  · rintro names _ ⟨_, rfl, params, hparams, rfl⟩
    refine ⟨rfl, rfl, ?_, hparams.printed⟩
    show (params.flatMap Param.shown).Perm _
    rw [hparams.shown, List.map_map]
    exact hperm.map _

end TypeContext

end ProtoClass
