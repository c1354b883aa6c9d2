import ProtoClass.Proofs.TypeScript.Reading

/-!
# The text of a type is unambiguous

`IsPlain` describes the types whose text determines them.  `IsPlain.typeReads` says that such a type is read back from
its text, in front of any rest at which a type ends, and so two plain types with the same text are equal
(`render_unambiguous`).  The induction goes over the types that are no unions: a member of a union may be followed by a
bar and the element of an array by brackets, so a type that is no union is read together with the brackets after it.
-/

namespace ProtoClass.TypeScript.TypeExpr

/-! ### Plain types -/

/-- A type that can be told from its text: its references and properties are named by identifiers, no reference is
called like a built-in type, and a union has several members, none of them a union. -/
inductive IsPlain : TypeExpr → Prop
  | primitive (type : Primitive) : IsPlain (.primitive type)
  | reference {name : String} (hname : isIdentifier name = true) (hother : ∀ type : Primitive, name ≠ type.render) :
    IsPlain (.reference name)
  | literal (text : String) : IsPlain (.literal text)
  | array {element : TypeExpr} (helement : IsPlain element) : IsPlain (.array element)
  | index {key value : TypeExpr} (hkey : IsPlain key) (hvalue : IsPlain value) : IsPlain (.index key value)
  | record {properties : List Property} (hnames : ∀ property ∈ properties, isIdentifier property.name = true)
    (htypes : ∀ property ∈ properties, IsPlain property.type) : IsPlain (.record properties)
  | union {members : List TypeExpr} (hlength : 2 ≤ members.length)
    (hunions : ∀ member ∈ members, member.isUnion = false) (hmembers : ∀ member ∈ members, IsPlain member) :
    IsPlain (.union members)

/-- The members of a union; another type is its own only member. -/
def members : TypeExpr → List TypeExpr
  | union members => members
  | type => [type]

theorem members_eq_singleton {type : TypeExpr} (h : type.isUnion = false) : type.members = [type] := by
  cases type with
  | union _ => cases h
  | _ => rfl

theorem members_ne_nil {type : TypeExpr} (h : type.IsPlain) : type.members ≠ [] := by
  cases h with
  | @union members hlength _ _ =>
    show members ≠ []
    exact List.ne_nil_of_length_pos (by omega)
  | _ => simp [members]

theorem ofMembers_members {type : TypeExpr} (h : type.IsPlain) : ofMembers type.members = type := by
  cases h with
  | @union members hlength _ _ =>
    rcases members with _ | ⟨first, _ | ⟨second, others⟩⟩
    · simp at hlength
    · simp at hlength
    · rfl
  | _ => rfl

theorem renderAll_eq_map (types : List TypeExpr) : renderAll types = types.map render := by
  induction types with
  | nil => simp [renderAll]
  | cons type types ih => simp [renderAll, ih]

theorem renderProperties_eq_map (properties : List Property) :
    renderProperties properties = properties.map renderProperty := by
  induction properties with
  | nil => simp [renderProperties]
  | cons property properties ih => simp [renderProperties, ih]

theorem render_eq_joinWith (type : TypeExpr) : type.render = Text.joinWith "|" (type.members.map render) := by
  cases type <;> simp [members, Text.joinWith, render, renderAll_eq_map]

theorem orUndefined_eq (type : TypeExpr) : type.orUndefined = union (type.members ++ [primitive .undefined]) := by
  cases type <;> rfl

theorem sizeOf_pos (type : TypeExpr) : 0 < sizeOf type := by
  cases type <;> simp only [primitive.sizeOf_spec, reference.sizeOf_spec, literal.sizeOf_spec, array.sizeOf_spec,
    index.sizeOf_spec, record.sizeOf_spec, union.sizeOf_spec] <;> omega

theorem length_le_sizeOf {α : Type} [SizeOf α] (l : List α) : l.length ≤ sizeOf l := by
  induction l with
  | nil => simp
  | cons a l ih => simp only [List.length_cons, List.cons.sizeOf_spec]; omega

theorem sizeOf_le_of_mem_members {type member : TypeExpr} (h : member ∈ type.members) :
    sizeOf member ≤ sizeOf type := by
  cases type with
  | union members =>
    have hlt : sizeOf member < sizeOf members := List.sizeOf_lt_of_mem h
    simp only [union.sizeOf_spec]
    omega
  | _ => exact Nat.le_of_eq (by rw [List.mem_singleton.1 h])

theorem length_members_le (type : TypeExpr) : type.members.length ≤ sizeOf type := by
  cases type with
  | union members =>
    have hle := length_le_sizeOf members
    simp only [TypeExpr.members, union.sizeOf_spec]
    omega
  | _ => exact sizeOf_pos _

theorem sizeOf_type_lt {property : Property} {properties : List Property} (h : property ∈ properties) :
    sizeOf property.type < sizeOf properties := by
  have hlt := List.sizeOf_lt_of_mem h
  obtain ⟨name, type, optional⟩ := property
  simp only [Property.mk.sizeOf_spec] at hlt
  simp only [Property.type]
  omega

/-! ### Reading plain types back -/

/-- The type, which is no union, is read up to the brackets after it. -/
def ElementReads (type : TypeExpr) : Prop :=
  ∀ fuel rest, sizeOf type ≤ fuel + 1 → Ends isIdentifierPart rest →
    readElement (readType fuel) fuel (type.render.toList ++ rest) = some (readArrays type rest)

/-- The type is read back from its text. -/
def TypeReads (type : TypeExpr) : Prop :=
  ∀ fuel rest, sizeOf type ≤ fuel → Ends continuesType rest →
    readType fuel (type.render.toList ++ rest) = some (type, rest)

/-- A type is read back if its members are. -/
theorem typeReads_of_members {type : TypeExpr} (hplain : type.IsPlain)
    (h : ∀ member ∈ type.members, member.ElementReads) : type.TypeReads := by
  intro fuel rest hfuel hrest
  obtain ⟨fuel, rfl⟩ : ∃ n, fuel = n + 1 := ⟨fuel - 1, by have := type.sizeOf_pos; omega⟩
  have hreads : ∀ member ∈ type.members, ∀ rest, Ends continuesElement rest →
      readElement (readType fuel) fuel (member.render.toList ++ rest) = some (member, rest) := by
    intro member hmember rest hrest
    have hsize := sizeOf_le_of_mem_members hmember
    rw [h member hmember fuel rest (by omega) hrest.word, readArrays_of_ends member hrest]
  have hend : rest.head? ≠ some '|' := by
    intro hbar
    have hcontinues := hrest '|' hbar
    revert hcontinues
    decide
  have hlength := type.length_members_le
  have hread := Reader.separatedBy_joinWith (by decide) hrest.element hend (members_ne_nil hplain) hreads
    (Nat.le_trans hlength hfuel)
  rw [readType, render_eq_joinWith, show "|" = String.singleton '|' from rfl, hread, Option.map_some,
    ofMembers_members hplain]

theorem elementReads_array {element : TypeExpr} (hplain : element.IsPlain)
    (h : ∀ member ∈ element.members, member.ElementReads) : (array element).ElementReads := by
  intro fuel rest hfuel hrest
  have hsize : sizeOf element ≤ fuel := by simp only [array.sizeOf_spec] at hfuel; omega
  cases hunion : element.isUnion with
  | true =>
    -- the parentheses hold a whole type
    have hread := typeReads_of_members hplain h fuel (')' :: '[' :: ']' :: rest) hsize (ends_cons.2 (by decide))
    simp [render, hunion, readElement, readAtom, Reader.closedBy_eq_some hread, readArrays]
  | false =>
    have helement : element.ElementReads := h element (by simp [members_eq_singleton hunion])
    have hread := helement fuel ('[' :: ']' :: rest) (by omega) (ends_cons.2 (by decide))
    simp [render, hunion, hread, readArrays]

theorem elementReads_index {key value : TypeExpr} (hkey : key.TypeReads) (hvalue : value.TypeReads) :
    (index key value).ElementReads := by
  intro fuel rest hfuel hrest
  simp only [index.sizeOf_spec] at hfuel
  have hreadValue := hvalue fuel ('\x7d' :: rest) (by omega) (ends_cons.2 (by decide))
  have hreadKey := hkey fuel (']' :: ':' :: (value.render.toList ++ '\x7d' :: rest)) (by omega)
    (ends_cons.2 (by decide))
  simp [render, readElement, readAtom, readObject, Reader.closedBy_eq_some hreadKey,
    Reader.closedBy_eq_some hreadValue]

theorem readObject_of_start {type : Reader TypeExpr} {fuel : Nat} {c : Char} (hstart : isIdentifierStart c = true)
    (tail : List Char) :
    readObject type fuel (c :: tail) =
      (((readProperty type).separatedBy ',' fuel).closedBy '\x7d' (c :: tail)).map fun found =>
        (.record found.1, found.2) := by
  rw [readObject]
  · exact fun tail h => ne_of_isIdentifierStart hstart (by decide) (List.cons.inj h).1
  · exact fun tail h => ne_of_isIdentifierStart hstart (by decide) (List.cons.inj h).1

/-- The text of a list of properties starts with the name of the first. -/
theorem toList_joinWith_properties {property : Property} (properties : List Property)
    (hname : isIdentifier property.name = true) :
    ∃ c tail, (Text.joinWith "," ((property :: properties).map renderProperty)).toList = c :: tail ∧
      isIdentifierStart c = true := by
  obtain ⟨⟨c, tail, hword, hstart⟩, -⟩ := toList_of_isIdentifier hname
  obtain ⟨name, type, optional⟩ := property
  simp only [Property.name] at hword
  cases properties <;> simp [Text.joinWith, renderProperty, hword, hstart]

theorem elementReads_record {properties : List Property}
    (hnames : ∀ property ∈ properties, isIdentifier property.name = true)
    (htypes : ∀ property ∈ properties, property.type.TypeReads) : (record properties).ElementReads := by
  intro fuel rest hfuel hrest
  simp only [record.sizeOf_spec] at hfuel
  rcases properties with _ | ⟨first, others⟩
  · simp [render, renderProperties, Text.joinWith, readElement, readAtom, readObject]
  · have hreads : ∀ property ∈ first :: others, ∀ rest, Ends continuesType rest →
        readProperty (readType fuel) ((renderProperty property).toList ++ rest) = some (property, rest) := by
      intro property hproperty rest hrest
      have hsize := sizeOf_type_lt hproperty
      exact readProperty_append (hnames property hproperty)
        (htypes property hproperty fuel rest (by omega) hrest)
    have hlength := length_le_sizeOf (first :: others)
    have hread := @Reader.separatedBy_joinWith ('\x7d' :: rest) _ _ _ ',' continuesType (by decide)
      (ends_cons.2 (by decide)) (by simp) _ (List.cons_ne_nil first others) hreads fuel (by omega)
    obtain ⟨c, tail, htext, hstart⟩ := toList_joinWith_properties others (hnames first List.mem_cons_self)
    rw [show String.singleton ',' = "," from rfl, htext, List.cons_append] at hread
    simp only [render, renderProperties_eq_map, String.toList_append, htext]
    simp [readElement, readAtom, readObject_of_start hstart, Reader.closedBy_eq_some hread]

/-- The members of a plain type are read up to the brackets after them. -/
theorem IsPlain.elementReads_members {type : TypeExpr} (h : type.IsPlain) :
    ∀ member ∈ type.members, member.ElementReads := by
  induction h with
  | primitive type =>
    refine List.forall_mem_singleton.2 fun fuel rest _ hrest => ?_
    rw [render, readElement_word type.isIdentifier_render hrest, ofWord_render]
  | reference hname hother =>
    refine List.forall_mem_singleton.2 fun fuel rest _ hrest => ?_
    rw [render, readElement_word hname hrest, ofWord_of_ne hother]
  | literal text =>
    refine List.forall_mem_singleton.2 fun fuel rest _ hrest => ?_
    have hscan := scanLiteral_escapeLiteral text.toList rest
    simp [render, toList_literal, readElement, readAtom, hscan, unescape_escapeLiteral]
  | array helement ih => exact List.forall_mem_singleton.2 (elementReads_array helement ih)
  | index hkey hvalue ihkey ihvalue =>
    exact List.forall_mem_singleton.2
      (elementReads_index (typeReads_of_members hkey ihkey) (typeReads_of_members hvalue ihvalue))
  | record hnames htypes ih =>
    exact List.forall_mem_singleton.2 (elementReads_record hnames fun property hproperty =>
      typeReads_of_members (htypes property hproperty) (ih property hproperty))
  | union _ hunions _ ih =>
    intro member hmember
    exact ih member hmember member (by simp [members_eq_singleton (hunions member hmember)])

/-- A plain type is read back from its text. -/
theorem IsPlain.typeReads {type : TypeExpr} (h : type.IsPlain) : type.TypeReads :=
  typeReads_of_members h h.elementReads_members

/-- Two plain types with the same text are the same type. -/
theorem render_unambiguous {type other : TypeExpr} (htype : type.IsPlain) (hother : other.IsPlain)
    (htext : type.render = other.render) : type = other := by
  -- one reader, with fuel for both
  have hread := htype.typeReads (sizeOf type + sizeOf other) [] (by omega) (ends_nil _)
  have hreadOther := hother.typeReads (sizeOf type + sizeOf other) [] (by omega) (ends_nil _)
  rw [htext, hreadOther] at hread
  exact (congrArg Prod.fst (Option.some.inj hread)).symm

/-- An array of a union, with marks of the grammar inside a string. -/
def nested : TypeExpr :=
  .array (.union [.reference "Tag", .record [⟨"kind", .literal "a\"|b", false⟩,
    ⟨"sizes", .index (.primitive .string) (.array (.primitive .number)), true⟩]])

theorem nested_isPlain : nested.IsPlain := by
  refine .array (.union (by decide) ?_ ?_)
  · simp [isUnion]
  · refine List.forall_mem_cons.2 ⟨?_, List.forall_mem_singleton.2 ?_⟩
    · exact .reference (by decide) fun type => by cases type <;> decide
    · refine .record ?_ ?_
      · simp only [List.forall_mem_cons]
        decide
      · exact List.forall_mem_cons.2 ⟨.literal _, List.forall_mem_singleton.2
          (.index (.primitive _) (.array (.primitive _)))⟩

theorem nested_orUndefined_isPlain : (TypeExpr.union [nested, .primitive .undefined]).IsPlain := by
  refine .union (by decide) (by simp [nested, isUnion]) ?_
  exact List.forall_mem_cons.2 ⟨nested_isPlain, List.forall_mem_singleton.2 (.primitive _)⟩

theorem render_unambiguous_nested :
    nested.orUndefined.IsPlain ∧ (TypeExpr.union [nested, .primitive .undefined]).IsPlain ∧
      nested.orUndefined.render =
        "(Tag|\x7bkind:\"a\\\"|b\",sizes?:\x7b[key:string]:number[]\x7d\x7d)[]|undefined" ∧
      nested.orUndefined = .union [nested, .primitive .undefined] :=
  ⟨nested_orUndefined_isPlain, nested_orUndefined_isPlain, by decide +kernel,
    render_unambiguous nested_orUndefined_isPlain nested_orUndefined_isPlain rfl⟩

end ProtoClass.TypeScript.TypeExpr
