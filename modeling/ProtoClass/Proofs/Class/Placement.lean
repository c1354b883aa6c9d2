import ProtoClass.Proofs.Class.Params
import ProtoClass.Proofs.Class.Shape
import ProtoClass.Proofs.Resolution.LocalNames

/-!
# Each field has one place among the parameters

On a walk over the fields of a message in order of declaration, a field outside of all oneofs gives a parameter, and so
does the first member of every oneof; nothing else does (`ParamsAlong`).  So the numbers that the parameters of a class
stand for are those of the fields, each once, and no two parameters have one name (`params_place_each_field_once`).
-/

namespace ProtoClass

/-- The parameter of a field outside of all oneofs. -/
structure Param.IsOfField (source : MessageDecl) (field : ResolvedField) (param : Param) : Prop where
  tag : param.source = .field field.tag
  name : param.name = field.localName
  optional : param.optional = field.optional
  docs : ∃ decl ∈ source.fields, decl.number = field.tag ∧ param.docs = .ofBoth decl.commented

/-- The parameter of a oneof; its cases have the numbers of the members. -/
structure Param.IsOfOneof (message : ResolvedMessage) (oneof : String) (param : Param) : Prop where
  union : ∃ union, param.source = .oneof union ∧ union.name = oneof ∧
    (union.variants.flatMap Variant.shown).map (·.1) = (message.membersOf oneof).map (·.tag)
  name : ∃ o ∈ message.oneofs, o.name = oneof ∧ param.name = o.localName
  optional : param.optional = false

/-- The parameters on a walk over some fields of a message, which comes after the fields `before`. -/
inductive ParamsAlong (message : ResolvedMessage) (source : MessageDecl) :
    List ResolvedField → List ResolvedField → List Param → Prop
  | nil {before : List ResolvedField} : ParamsAlong message source before [] []
  /-- a field outside of all oneofs -/
  | field {before rest : List ResolvedField} {field : ResolvedField} {param : Param} {params : List Param}
      (hfield : field.oneof = none) (hparam : param.IsOfField source field)
      (hrest : ParamsAlong message source (before ++ [field]) rest params) :
      ParamsAlong message source before (field :: rest) (param :: params)
  /-- the first member of a oneof -/
  | first {before rest : List ResolvedField} {field : ResolvedField} {oneof : String} {param : Param}
      {params : List Param} (hfield : field.oneof = some oneof)
      (hfirst : ∀ earlier ∈ before, earlier.oneof ≠ some oneof) (hparam : param.IsOfOneof message oneof)
      (hrest : ParamsAlong message source (before ++ [field]) rest params) :
      ParamsAlong message source before (field :: rest) (param :: params)
  /-- another member of a oneof -/
  | later {before rest : List ResolvedField} {field : ResolvedField} {oneof : String} {params : List Param}
      (hfield : field.oneof = some oneof) (hlater : ∃ earlier ∈ before, earlier.oneof = some oneof)
      (hrest : ParamsAlong message source (before ++ [field]) rest params) :
      ParamsAlong message source before (field :: rest) params

/-! ### The fields at whose place a parameter stands -/

namespace ResolvedField

theorem heads_sublist (done : List String) (fields : List ResolvedField) : (heads done fields).Sublist fields := by
  induction fields generalizing done with
  | nil => exact List.Sublist.refl _
  | cons field rest ih =>
    unfold heads
    split
    · exact (ih done).cons_cons field
    · split
      · exact (ih done).cons field
      · exact (ih _).cons_cons field

theorem oneof_not_mem_of_mem_heads {done : List String} {fields : List ResolvedField} {field : ResolvedField}
    {oneof : String} (h : field ∈ heads done fields) (hfield : field.oneof = some oneof) : oneof ∉ done := by
  induction fields generalizing done with
  | nil => cases h
  | cons first rest ih =>
    unfold heads at h
    split at h
    · rename_i hfirst
      rcases List.mem_cons.1 h with rfl | h
      · rw [hfirst] at hfield
        cases hfield
      · exact ih h
    · rename_i name hfirst
      split at h
      · exact ih h
      · rename_i hopen
        rcases List.mem_cons.1 h with rfl | h
        · obtain rfl : name = oneof := Option.some.inj (hfirst.symm.trans hfield)
          simpa using hopen
        · exact fun hdone => ih h (List.mem_cons_of_mem _ hdone)

/-- No two of them are members of one oneof. -/
theorem heads_pairwise (done : List String) (fields : List ResolvedField) :
    (heads done fields).Pairwise fun a b => a.oneof ≠ none → a.oneof ≠ b.oneof := by
  induction fields generalizing done with
  | nil => exact List.Pairwise.nil
  | cons field rest ih =>
    unfold heads
    split
    · rename_i hfield
      exact List.pairwise_cons.2 ⟨fun _ _ hsome => absurd hfield hsome, ih done⟩
    · rename_i oneof hfield
      split
      · exact ih done
      · refine List.pairwise_cons.2 ⟨fun other hother _ heq => ?_, ih _⟩
        exact oneof_not_mem_of_mem_heads hother (heq.symm.trans hfield) List.mem_cons_self

end ResolvedField

/-! ### The parameters at these places -/

/-- The parameter at the place of a field: its own, or that of its oneof. -/
def Param.IsAt (message : ResolvedMessage) (source : MessageDecl) (field : ResolvedField) (param : Param) : Prop :=
  match field.oneof with
  | none => param.IsOfField source field
  | some oneof => param.IsOfOneof message oneof

theorem Param.isAt_of_none {message : ResolvedMessage} {source : MessageDecl} {field : ResolvedField} {param : Param}
    (h : field.oneof = none) : param.IsAt message source field ↔ param.IsOfField source field := by
  unfold IsAt
  rw [h]

theorem Param.isAt_of_some {message : ResolvedMessage} {source : MessageDecl} {field : ResolvedField} {param : Param}
    {oneof : String} (h : field.oneof = some oneof) :
    param.IsAt message source field ↔ param.IsOfOneof message oneof := by
  unfold IsAt
  rw [h]

theorem ResolvedMessage.group_eq_ok {message : ResolvedMessage} {field : ResolvedField} {group : OneofGroup}
    {oneof : String} (hfield : field.oneof = some oneof) (h : message.group field = .ok group) :
    ∃ o ∈ message.oneofs, o.name = oneof ∧ group.localName = o.localName := by
  unfold ResolvedMessage.group at h
  rw [hfield] at h
  rcases hfind : message.oneof? oneof with _ | o <;> simp only [hfind] at h
  · cases h
  rcases hmembers : o.members.mapM message.field with e | members <;> simp only [hmembers, bind, Except.bind] at h
  · cases h
  cases h
  exact ⟨o, List.mem_of_find?_eq_some hfind, by simpa using List.find?_some hfind, rfl⟩

theorem Variant.map_shown_of_isCaseOf {members : List ResolvedField} {cases : List Variant}
    (h : List.Forall₂ IsCaseOf members cases) : (cases.flatMap shown).map (·.1) = members.map (·.tag) := by
  induction h with
  | nil => rfl
  | cons hcase _ ih =>
    obtain ⟨type, rfl⟩ := hcase
    simp [shown, ih]

variable {catalog : Catalog} {entry : Entry MessageDecl} {discriminator : String} {message : ResolvedMessage}
  {fields : List ResolvedField} {params : List Param}

theorem Param.IsAt.of_standsAt {tagName : String} {field : ResolvedField} {param : Param}
    (hresolved : Catalog.IsResolved catalog entry discriminator message) (htags : message.MembersKeepTags)
    (h : param.StandsAt tagName message entry.decl field) : param.IsAt message entry.decl field := by
  unfold StandsAt at h
  rcases hfield : field.oneof with _ | oneof <;> rw [hfield] at h
  · obtain ⟨decl, type, hdecl, rfl⟩ := h
    rw [isAt_of_none hfield]
    exact ⟨rfl, rfl, rfl, decl, List.mem_of_find?_eq_some hdecl, by simpa using List.find?_some hdecl, rfl⟩
  · obtain ⟨group, decl, union, hgroup, _, hunion, rfl⟩ := h
    obtain ⟨o, ho, hname, hlocal⟩ := ResolvedMessage.group_eq_ok hfield hgroup
    obtain ⟨cases, hcases, hvariants⟩ := hunion.variants
    rcases hresolved.group_spec htags hfield with ⟨_, hmissing⟩ | ⟨_, localName, _, hfound⟩
    · rw [hgroup] at hmissing
      cases hmissing
    rw [hgroup] at hfound
    cases hfound
    rw [isAt_of_some hfield]
    refine ⟨⟨union, rfl, hunion.name, ?_⟩, ⟨o, ho, hname, hlocal⟩, rfl⟩
    have hshown := Variant.map_shown_of_isCaseOf hcases
    rw [hvariants, List.flatMap_append, List.map_append, hshown]
    simp [Variant.shown, ResolvedMessage.membersOf]

/-- A oneof that has its parameter already is one that a field before is a member of. -/
theorem paramsAlong_of_isAt {before : List ResolvedField} {done : List String}
    (hdone : ∀ oneof, oneof ∈ done ↔ ∃ earlier ∈ before, earlier.oneof = some oneof)
    (h : List.Forall₂ (Param.IsAt message entry.decl) (ResolvedField.heads done fields) params) :
    ParamsAlong message entry.decl before fields params := by
  induction fields generalizing before done params with
  | nil =>
    cases h
    exact .nil
  | cons field rest ih =>
    unfold ResolvedField.heads at h
    rcases hfield : field.oneof with _ | oneof <;> simp only [hfield] at h
    · have hdone' : ∀ oneof, oneof ∈ done ↔ ∃ earlier ∈ before ++ [field], earlier.oneof = some oneof := by
        intro oneof
        simp [hdone, hfield, or_and_right, exists_or]
      obtain ⟨param, others, hparam, hothers, rfl⟩ := List.forall₂_cons_left_iff.1 h
      rw [Param.isAt_of_none hfield] at hparam
      exact .field hfield hparam (ih hdone' hothers)
    · by_cases hmem : oneof ∈ done
      · rw [if_pos (List.contains_iff_mem.2 hmem)] at h
        refine .later hfield ((hdone oneof).1 hmem) (ih (fun other => ?_) h)
        simp only [hdone, List.mem_append, List.mem_singleton, or_and_right, exists_or, exists_eq_left, hfield]
        refine ⟨Or.inl, fun hearlier => hearlier.elim id ?_⟩
        rintro ⟨⟩
        exact (hdone oneof).1 hmem
      · rw [if_neg (by simpa using hmem)] at h
        obtain ⟨param, others, hparam, hothers, rfl⟩ := List.forall₂_cons_left_iff.1 h
        rw [Param.isAt_of_some hfield] at hparam
        refine .first hfield ?_ hparam (ih (fun other => ?_) hothers)
        · intro earlier hearlier heq
          exact hmem ((hdone oneof).2 ⟨earlier, hearlier, heq⟩)
        · simp only [List.mem_cons, hdone, List.mem_append, List.not_mem_nil, or_false, or_and_right, exists_or,
            exists_eq_left, hfield, Option.some.injEq]
          rw [or_comm, eq_comm]

/-- The numbers that the parameters stand for are those of the fields in the order of the parameters. -/
theorem map_shown_of_isAt {done : List String}
    (h : List.Forall₂ (Param.IsAt message entry.decl) (ResolvedField.heads done fields) params) :
    (params.flatMap Param.shown).map (·.1) = (message.inOrder done fields).map (·.tag) := by
  induction fields generalizing done params with
  | nil =>
    cases h
    rfl
  | cons field rest ih =>
    unfold ResolvedField.heads at h
    unfold ResolvedMessage.inOrder
    rcases hfield : field.oneof with _ | oneof <;> simp only [hfield] at h ⊢
    · obtain ⟨param, others, hparam, hothers, rfl⟩ := List.forall₂_cons_left_iff.1 h
      rw [Param.isAt_of_none hfield] at hparam
      simp [Param.shown, hparam.tag, ih hothers]
    · split at h
      · rename_i hdone
        rw [if_pos hdone]
        exact ih h
      · rename_i hdone
        rw [if_neg hdone]
        obtain ⟨param, others, hparam, hothers, rfl⟩ := List.forall₂_cons_left_iff.1 h
        rw [Param.isAt_of_some hfield] at hparam
        obtain ⟨union, hsource, _, htags⟩ := hparam.union
        rw [List.flatMap_cons, List.map_append, List.map_append, ih hothers, ← htags]
        simp [Param.shown, hsource]

/-- Parameters at the places of different fields outside of all oneofs, or of members of different oneofs, have
different names. -/
theorem name_ne_of_isAt {identity : Identity} {a b : ResolvedField} {param other : Param}
    (hmessage : catalog.resolve identity discriminator = .ok message)
    (ha : a ∈ message.fields) (hb : b ∈ message.fields) (hparam : param.IsAt message entry.decl a)
    (hother : other.IsAt message entry.decl b) (hnames : a.localName ≠ b.localName)
    (honeofs : a.oneof ≠ none → a.oneof ≠ b.oneof) : param.name ≠ other.name := by
  rcases hfield : a.oneof with _ | oneof <;> rcases hfield' : b.oneof with _ | oneof'
  · rw [((Param.isAt_of_none hfield).1 hparam).name, ((Param.isAt_of_none hfield').1 hother).name]
    exact hnames
  · obtain ⟨o, ho, _, hname⟩ := ((Param.isAt_of_some hfield').1 hother).name
    rw [((Param.isAt_of_none hfield).1 hparam).name, hname]
    exact Catalog.resolve_field_ne_oneof hmessage ha ho
  · obtain ⟨o, ho, _, hname⟩ := ((Param.isAt_of_some hfield).1 hparam).name
    rw [((Param.isAt_of_none hfield').1 hother).name, hname]
    exact (Catalog.resolve_field_ne_oneof hmessage hb ho).symm
  · obtain ⟨o, ho, rfl, hname⟩ := ((Param.isAt_of_some hfield).1 hparam).name
    obtain ⟨o', ho', rfl, hname'⟩ := ((Param.isAt_of_some hfield').1 hother).name
    rw [hname, hname']
    refine Catalog.resolve_oneofs_apart hmessage ho ho' fun heq => ?_
    exact honeofs (by simp [hfield]) (by rw [hfield, hfield', heq])

/-- In the class made of a message whose fields have different numbers, a walk over the fields in order of declaration
meets the parameters in order: one for each field outside of all oneofs, with the number, the property name, the flag
and the documentation of the field, one at the first member of each oneof, which is never optional, and no others.  So
the numbers that the parameters and the cases of their unions stand for are those of the fields, each once, and the
names of the parameters are different. -/
theorem params_place_each_field_once (schema : Schema) (discriminator : String) (context : TypeContext)
    (entry : Entry MessageDecl) (message : ResolvedMessage) (table table' : SymbolTable) (decl : ClassDecl)
    (hentry : entry ∈ (Catalog.ofSchema schema).messages)
    (hnumbers : (entry.decl.fields.map (·.number)).Nodup)
    (hmessage : (Catalog.ofSchema schema).resolve entry.identity discriminator = .ok message)
    (hdecl : (context.classDecl message entry.decl).run table = (.ok decl, table')) :
    List.Forall₂ (fun field resolved => resolved.tag = field.number ∧ resolved.oneof = field.memberOf)
        entry.decl.fields message.fields ∧
      ParamsAlong message entry.decl [] message.fields decl.params ∧
      (decl.shown.map (·.1)).Perm (entry.decl.fields.map (·.number)) ∧
      (decl.params.map (·.name)).Nodup := by
  have hresolved := Catalog.resolve_spec (Catalog.coherent_ofSchema schema) hentry discriminator
  rw [hmessage] at hresolved
  have htags := hresolved.membersKeepTags (MessageDecl.membersKeepNumbers_of_nodup hnumbers)
  obtain ⟨_, _, hstands⟩ := context.classDecl_makes message entry.decl table decl table' hdecl
  have hparams : List.Forall₂ (Param.IsAt message entry.decl) (ResolvedField.heads [] message.fields) decl.params :=
    hstands.imp fun _ _ h => Param.IsAt.of_standsAt hresolved htags h
  have hsublist := ResolvedField.heads_sublist [] message.fields
  refine ⟨hresolved.fields.imp fun _ _ hfrom => ⟨hfrom.tag, hfrom.oneof⟩, ?_, ?_, ?_⟩
  · exact paramsAlong_of_isAt (by simp) hparams
  · have hfields : message.fields.map (·.tag) = entry.decl.fields.map (·.number) := by
      rw [eq_comm, ← List.forall₂_eq_eq_eq, List.forall₂_map_left_iff, List.forall₂_map_right_iff]
      exact hresolved.fields.imp fun _ _ hfrom => hfrom.tag.symm
    show ((decl.params.flatMap Param.shown).map (·.1)).Perm _
    rw [map_shown_of_isAt hparams, ← hfields]
    exact message.inOrder_perm.map _
  · have hnames := (List.pairwise_map.1 (Catalog.resolve_localNames_nodup hmessage)).sublist hsublist
    have hplaces := hnames.and (ResolvedField.heads_pairwise [] message.fields)
    refine List.pairwise_map.2 (pairwise_of_forall₂ hparams hplaces ?_)
    intro a ha b hb param other hparam hother hapart
    exact name_ne_of_isAt hmessage (hsublist.subset ha) (hsublist.subset hb) hparam hother hapart.1 hapart.2

/-- Two oneofs whose members take turns, with other fields in between; one of these only names a oneof, and one is
called like it. -/
def Schema.braided : Schema where
  files := [{ name := "braid.proto"
              messages :=
                [{ name := "Braid"
                   fields :=
                     [{ name := "left_end", number := 4, type := .scalar .int32, oneof := some "left" },
                      { name := "id", number := 1, type := .scalar .string },
                      { name := "right_end", number := 6, type := .scalar .int32, oneof := some "right" },
                      { name := "left_mark", number := 3, type := .scalar .bool, oneof := some "left" },
                      { name := "right", number := 5, type := .scalar .bytes },
                      { name := "right_mark", number := 2, type := .scalar .bool, oneof := some "right" },
                      { name := "note", number := 7, type := .scalar .string, oneof := some "left",
                        proto3Optional := true }]
                   oneofs := [{ name := "left" }, { name := "right" }] }] }]

theorem params_place_each_field_once_braided :
    ∃ entry ∈ (Catalog.ofSchema .braided).messages, (entry.decl.fields.map (·.number)).Nodup ∧
      ∃ message, (Catalog.ofSchema .braided).resolve entry.identity "kind" = .ok message ∧
      ∃ table decl table', (TypeContext.classDecl ⟨.table, {}⟩ message entry.decl).run table = (.ok decl, table') ∧
        decl.params.map (·.name) = ["left", "id", "right", "right_", "note"] ∧
        decl.shown.map (·.1) = [4, 3, 1, 6, 2, 5, 7] ∧
        List.Forall₂ (fun field resolved => resolved.tag = field.number ∧ resolved.oneof = field.memberOf)
          entry.decl.fields message.fields ∧
        ParamsAlong message entry.decl [] message.fields decl.params ∧
        (decl.shown.map (·.1)).Perm (entry.decl.fields.map (·.number)) ∧ (decl.params.map (·.name)).Nodup := by
  let table : SymbolTable := { symbols := [⟨"BraidClass", "BraidClass", ⟨"Braid"⟩, "braid.proto", .constructorClass⟩] }
  have hmade : ∃ entry ∈ (Catalog.ofSchema .braided).messages, (entry.decl.fields.map (·.number)).Nodup ∧
      (((Catalog.ofSchema .braided).resolve entry.identity "kind").toOption.bind fun message =>
        ((TypeContext.classDecl ⟨.table, {}⟩ message entry.decl).run table).1.toOption.bind fun decl =>
          some (decl.params.map (·.name), decl.shown.map (·.1))) =
        some (["left", "id", "right", "right_", "note"], [4, 3, 1, 6, 2, 5, 7]) := by
    decide +kernel
  obtain ⟨entry, hentry, hnumbers, hfound⟩ := hmade
  obtain ⟨message, hmessage, hfound⟩ := Option.bind_eq_some_iff.1 hfound
  obtain ⟨decl, hdecl, hfound⟩ := Option.bind_eq_some_iff.1 hfound
  obtain ⟨hnames, hshown⟩ := Prod.mk.inj (Option.some.inj hfound)
  rw [toOption_eq_some] at hmessage hdecl
  have hrun : (TypeContext.classDecl ⟨.table, {}⟩ message entry.decl).run table = (.ok decl, _) := Prod.ext hdecl rfl
  exact ⟨entry, hentry, hnumbers, message, hmessage, table, decl, _, hrun, hnames, hshown,
    params_place_each_field_once .braided "kind" ⟨.table, {}⟩ entry message table _ decl hentry hnumbers hmessage hrun⟩

end ProtoClass
