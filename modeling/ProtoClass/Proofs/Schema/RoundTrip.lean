import ProtoClass.Proofs.Schema.Abridged
import ProtoClass.Schema.Document
import ProtoClass.Schema.Reader

/-!
# Schemas read back from their documents

Each declaration is read back from its JSON form and from every abridged form of it: `recovers_fieldType` for field
types, `recovers_messageDecl` for messages with all that is inside them, and so on up to whole schemas
(`schema_reads_back`).
-/

namespace ProtoClass

theorem Scalar.ofKeyword?_keyword (kind : Scalar) : Scalar.ofKeyword? kind.keyword = some kind := by
  cases kind <;> decide

theorem Label.ofKeyword?_keyword (label : Label) : Label.ofKeyword? label.keyword = some label := by
  cases label <;> decide

theorem Dialect.ofKeyword?_keyword (dialect : Dialect) : Dialect.ofKeyword? dialect.keyword = some dialect := by
  cases dialect <;> decide

theorem LongForm.ofKeyword?_keyword (form : LongForm) : LongForm.ofKeyword? form.keyword = some form := by
  cases form <;> decide

namespace Json

/-! ### Words -/

theorem recovers_label (label : Label) : Recovers Json.format.label (.str label.keyword) label :=
  recovers_of_levels rfl fun _ => label.ofKeyword?_keyword

theorem recovers_dialect (dialect : Dialect) : Recovers Json.format.dialect (.str dialect.keyword) dialect :=
  recovers_of_levels rfl fun _ => dialect.ofKeyword?_keyword

theorem recovers_longForm (form : LongForm) : Recovers Json.format.longForm (.str form.keyword) form :=
  recovers_of_levels rfl fun _ => form.ofKeyword?_keyword

theorem Fills.label {depth : Nat} {label : Label} {slot : Option Json}
    (h : Fills depth ("label", .str label.keyword) slot) :
    Format.defaulted .singular (Json.format.label depth) slot = some label := by
  refine h.defaulted (recovers_label label) fun hdefault => ?_
  cases label <;> simp [defaultOf?, Label.keyword] at hdefault ⊢

theorem Fills.dialect {depth : Nat} {dialect : Dialect} {slot : Option Json}
    (h : Fills depth ("syntax", .str dialect.keyword) slot) :
    Format.defaulted .proto3 (Json.format.dialect depth) slot = some dialect := by
  refine h.defaulted (recovers_dialect dialect) fun hdefault => ?_
  cases dialect <;> simp [defaultOf?, Dialect.keyword] at hdefault ⊢

theorem forall₂_map_recovers {α : Type} {read : Nat → Json → Option α} {encode : α → Json}
    (h : ∀ a, Recovers read (encode a) a) (as : List α) : List.Forall₂ (Recovers read) (as.map encode) as :=
  List.forall₂_map_left_iff.2 (List.forall₂_same.2 fun a _ => h a)

/-! ### Declarations -/

/-- No part of a field type can be left out. -/
theorem recovers_fieldType (type : FieldType) : Recovers Json.format.fieldType type.toJson type := by
  induction type with
  | scalar kind =>
    intro short depth h hdepth
    obtain ⟨inner, body, rfl, rfl, hbody, -⟩ := h.exists_tag rfl hdepth
    rw [hbody.eq_of_levels rfl]
    show (Scalar.ofKeyword? kind.keyword).map FieldType.scalar = _
    rw [kind.ofKeyword?_keyword]
    rfl
  | enum name | message name | group name =>
    intro short depth h hdepth
    obtain ⟨inner, body, rfl, rfl, hbody, -⟩ := h.exists_tag rfl hdepth
    rw [hbody.eq_of_levels rfl]
    rfl
  | map key value ih =>
    intro short depth h hdepth
    obtain ⟨_, body, rfl, rfl, hbody, hinner⟩ := h.exists_tag rfl hdepth
    obtain ⟨inner, _, rfl, hslots, _ | ⟨hkey, _ | ⟨hvalue, _ | _⟩⟩⟩ := slotsOf_abridges hbody (by simp) hinner
    obtain ⟨_, rfl, hkey, -⟩ := hkey.exists_of_mandatory rfl
    obtain ⟨_, rfl, hvalue, hlevels⟩ := hvalue.exists_of_mandatory rfl
    obtain rfl := hkey.eq_of_levels rfl
    have hvariant : Json.format.variant? (.obj [("map", body)]) = some ("map", body) := rfl
    have htext : Json.format.text? (.str key.keyword) = some key.keyword := rfl
    simp only [List.map_cons, List.map_nil] at hslots
    simp only [Format.fieldType, hvariant, hslots, htext, Option.bind_some, key.ofKeyword?_keyword,
      ih _ _ hvalue hlevels]
    rfl

theorem recovers_fieldDecl (field : FieldDecl) : Recovers Json.format.fieldDecl field.toJson field := by
  intro short depth h hdepth
  obtain ⟨inner, _, rfl, hslots, hfills⟩ := slotsOf_abridges h (by simp) hdepth
  obtain _ | ⟨hname, _ | ⟨hnumber, _ | ⟨hlabel, _ | ⟨htype, _ | ⟨honeof, _ | ⟨hoptional, _ | ⟨hlongForm,
    _ | ⟨hjsonName, _ | ⟨hcomment, _ | ⟨htrailing, _ | ⟨hdeprecated, _ | _⟩⟩⟩⟩⟩⟩⟩⟩⟩⟩⟩ := hfills
  simp only [List.map_cons, List.map_nil] at hslots
  simp only [Format.fieldDecl, hslots, hname.required (recovers_text _) rfl,
    hnumber.required (recovers_uint32 _) rfl, hlabel.label, htype.required (recovers_fieldType _) rfl,
    honeof.text rfl, hoptional.flag rfl, hlongForm.optional recovers_longForm rfl, hjsonName.text rfl,
    hcomment.text rfl, htrailing.text rfl, hdeprecated.flag rfl]
  rfl

theorem recovers_oneofDecl (oneof : OneofDecl) : Recovers Json.format.oneofDecl oneof.toJson oneof := by
  intro short depth h hdepth
  obtain ⟨inner, _, rfl, hslots, _ | ⟨hname, _ | ⟨hcomment, _ | _⟩⟩⟩ := slotsOf_abridges h (by simp) hdepth
  simp only [List.map_cons, List.map_nil] at hslots
  simp only [Format.oneofDecl, hslots, hname.required (recovers_text _) rfl, hcomment.text rfl]
  rfl

theorem recovers_enumValueDecl (value : EnumValueDecl) :
    Recovers Json.format.enumValueDecl value.toJson value := by
  intro short depth h hdepth
  obtain ⟨inner, _, rfl, hslots, hfills⟩ := slotsOf_abridges h (by simp) hdepth
  obtain _ | ⟨hname, _ | ⟨hnumber, _ | ⟨hcomment, _ | ⟨hdeprecated, _ | _⟩⟩⟩⟩ := hfills
  simp only [List.map_cons, List.map_nil] at hslots
  simp only [Format.enumValueDecl, hslots, hname.required (recovers_text _) rfl,
    hnumber.required (recovers_int32 _) rfl, hcomment.text rfl, hdeprecated.flag rfl]
  rfl

theorem recovers_enumDecl (enum : EnumDecl) : Recovers Json.format.enumDecl enum.toJson enum := by
  intro short depth h hdepth
  obtain ⟨inner, _, rfl, hslots, hfills⟩ := slotsOf_abridges h (by simp) hdepth
  obtain _ | ⟨hname, _ | ⟨hvalues, _ | ⟨hcomment, _ | ⟨hdeprecated, _ | _⟩⟩⟩⟩ := hfills
  simp only [List.map_cons, List.map_nil] at hslots
  have hvalues := hvalues.required (recovers_listOf (forall₂_map_recovers recovers_enumValueDecl _)) rfl
  simp only [Format.enumDecl, hslots, hname.required (recovers_text _) rfl, hvalues, hcomment.text rfl,
    hdeprecated.flag rfl]
  rfl

mutual

/-- By induction on the messages inside. -/
theorem recovers_messageDecl : ∀ message : MessageDecl,
    Recovers Json.format.messageDecl message.toJson message
  | ⟨name, fields, oneofs, messages, enums, comment, trailingComment, deprecated⟩ => by
    intro short depth h hdepth
    rw [MessageDecl.toJson] at h
    obtain ⟨inner, _, rfl, hslots, hfills⟩ := slotsOf_abridges h (by simp) hdepth
    obtain _ | ⟨hname, _ | ⟨hfields, _ | ⟨honeofs, _ | @⟨_, slot, _, _, hmessages, _ | ⟨henums, _ | ⟨hcomment,
      _ | ⟨htrailing, _ | ⟨hdeprecated, _ | _⟩⟩⟩⟩⟩⟩⟩⟩ := hfills
    simp only [List.map_cons, List.map_nil] at hslots
    have hmessages := hmessages.list (forall₂_recovers_messageDecl messages) rfl
    simp only [Format.messageDecl, hslots, hname.required (recovers_text _) rfl,
      hfields.list (forall₂_map_recovers recovers_fieldDecl _) rfl,
      honeofs.list (forall₂_map_recovers recovers_oneofDecl _) rfl,
      henums.list (forall₂_map_recovers recovers_enumDecl _) rfl,
      hcomment.text rfl, htrailing.text rfl, hdeprecated.flag rfl]
    -- The reader goes down itself into the list of messages inside, as `listOf` does.
    cases slot with
    | none =>
      cases hmessages
      rfl
    | some given =>
      cases inner with
      | zero => cases hmessages
      | succ inner =>
        have hgiven : (Json.format.items? given).bind (·.mapM (Json.format.messageDecl inner)) = some messages :=
          hmessages
        simp only [hgiven]
        rfl

theorem forall₂_recovers_messageDecl : ∀ messages : List MessageDecl,
    List.Forall₂ (Recovers Json.format.messageDecl) (MessageDecl.listToJson messages) messages
  | [] => .nil
  | message :: rest => .cons (recovers_messageDecl message) (forall₂_recovers_messageDecl rest)

end

theorem recovers_fileDecl (file : FileDecl) : Recovers Json.format.fileDecl file.toJson file := by
  intro short depth h hdepth
  obtain ⟨inner, _, rfl, hslots, hfills⟩ := slotsOf_abridges h (by simp) hdepth
  obtain _ | ⟨hname, _ | ⟨hpackage, _ | ⟨hdialect, _ | ⟨hmessages, _ | ⟨henums, _ | _⟩⟩⟩⟩⟩ := hfills
  simp only [List.map_cons, List.map_nil] at hslots
  simp only [Format.fileDecl, hslots, hname.required (recovers_text _) rfl, hpackage.text rfl, hdialect.dialect,
    hmessages.list (forall₂_map_recovers recovers_messageDecl _) rfl,
    henums.list (forall₂_map_recovers recovers_enumDecl _) rfl]
  rfl

theorem recovers_schemaAt (schema : Schema) : Recovers Json.format.schemaAt schema.toJson schema := by
  intro short depth h hdepth
  obtain ⟨inner, _, rfl, hslots, _ | ⟨hfiles, _ | _⟩⟩ := slotsOf_abridges h (by simp) hdepth
  simp only [List.map_cons, List.map_nil] at hslots
  have hfiles := hfiles.required (recovers_listOf (forall₂_map_recovers recovers_fileDecl _)) rfl
  simp only [Format.schemaAt, hslots, hfiles]
  rfl

end Json

namespace Schema

/-- A schema is read back from its document, and from the document less any members that have their default. -/
theorem schema_reads_back (schema : Schema) (depth : Nat) :
    (schema.toJson.levels ≤ depth → Json.format.schemaAt depth schema.toJson = some schema) ∧
      ∀ document, schema.toJson.Abridges document → document.levels ≤ depth →
        Json.format.schemaAt depth document = some schema := by
  have hreads := Json.recovers_schemaAt schema
  exact ⟨fun hdepth => hreads _ depth (.same _) hdepth, fun document h hdepth => hreads document depth h hdepth⟩

/-- A message inside a message, with a map of maps, and an enum; both numbers are at the end of their range. -/
def stock : Schema where
  files := [{
    name := "stock.proto"
    package := some "shop"
    messages := [{
      name := "Shelf"
      messages := [{
        name := "Slot"
        fields := [{
          name := "counts"
          number := 4294967295
          type := .map .string (.map .int64 (.scalar .sint64))
          longForm := some .bigint }] }]
      enums := [{ name := "State", values := [{ name := "LOST", number := -2147483648, deprecated := true }] }] }] }]

/-- The document of `stock` with most of what has its default left out, but not all of it. -/
def stockDocument : Json :=
  .obj [("files", .arr [.obj [
    ("name", .str "stock.proto"),
    ("package", .str "shop"),
    ("messages", .arr [.obj [
      ("name", .str "Shelf"),
      ("fields", .arr []),
      ("nested-messages", .arr [.obj [
        ("name", .str "Slot"),
        ("fields", .arr [.obj [
          ("name", .str "counts"),
          ("number", .int 4294967295),
          ("type", .obj [("map", .obj [("key", .str "string"), ("value", .obj [("map", .obj [
            ("key", .str "int64"),
            ("value", .obj [("scalar", .str "sint64")])])])])]),
          ("jstype", .str "bigint"),
          ("comment", .null)]])]]),
      ("nested-enums", .arr [.obj [
        ("name", .str "State"),
        ("values", .arr [.obj [("name", .str "LOST"), ("number", .int (-2147483648)), ("deprecated", .bool true)]]),
        ("deprecated", .bool false)]])]])]])]

private theorem abridges_stockDocument : stock.toJson.Abridges stockDocument := by
  refine .obj (.keep (.arr (.cons ?file .nil)) .nil)
  refine .obj (.keep (.same _) (.keep (.same _) (.leave rfl (.keep (.arr (.cons ?shelf .nil)) (.leave rfl .nil)))))
  refine .obj (.keep (.same _) (.keep (.same _) (.leave rfl (.keep (.arr (.cons ?slot .nil))
    (.keep (.arr (.cons ?state .nil)) (.leave rfl (.leave rfl (.leave rfl .nil))))))))
  case slot =>
    refine .obj (.keep (.same _) (.keep (.arr (.cons ?counts .nil)) (.leave rfl (.leave rfl (.leave rfl
      (.leave rfl (.leave rfl (.leave rfl .nil))))))))
    exact .obj (.keep (.same _) (.keep (.same _) (.leave rfl (.keep (.same _) (.leave rfl (.leave rfl
      (.keep (.same _) (.leave rfl (.keep (.same _) (.leave rfl (.leave rfl .nil)))))))))))
  case state =>
    refine .obj (.keep (.same _) (.keep (.arr (.cons ?lost .nil)) (.leave rfl (.keep (.same _) .nil))))
    exact .obj (.keep (.same _) (.keep (.same _) (.leave rfl (.keep (.same _) .nil))))

/-- All of this is within the levels that a reader of documents goes down. -/
theorem schema_reads_back_stock :
    stock.toJson.levels ≤ 127 ∧ Json.format.schema stock.toJson = some stock ∧
      stock.toJson.Abridges stockDocument ∧ stockDocument.levels = 14 ∧
        Json.format.schema stockDocument = some stock := by
  have hfull : stock.toJson.levels ≤ 127 := by decide
  have hlevels : stockDocument.levels = 14 := by decide
  have hshort := abridges_stockDocument
  have hreads := schema_reads_back stock 127
  exact ⟨hfull, hreads.1 hfull, hshort, hlevels, hreads.2 _ hshort (by omega)⟩

end Schema

end ProtoClass
