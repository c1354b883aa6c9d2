import ProtoClass.Proofs.Compiled.Folding
import ProtoClass.Proofs.Resolution.Message

/-!
# References of compiled schemas

A compiled schema refers to messages and enums by a dot and the full name.  Conversion and catalogue put full names
together in different ways, and give each converted message the same one (`converts_of_mem`, `message?_of_converts`).
So where all references of a compiled schema lead to something in it (`FileSet.IsLinked`), all messages of its
catalogue are resolved, and each reference to the identity with its name.
-/

namespace ProtoClass

namespace MessageDecl

theorem listDeclarations_eq (scope : Identity) (outer : List String) (messages : List MessageDecl) :
    listDeclarations scope outer messages = messages.flatMap (·.declarations scope outer) := by
  induction messages with
  | nil => rfl
  | cons message rest ih => rw [listDeclarations, ih, List.flatMap_cons]

variable {scope : Identity} {outer : List String} {decl : MessageDecl} {d : Declaration}

theorem mem_declarations : d ∈ decl.declarations scope outer ↔
    d = ⟨scope.child decl.name, outer ++ [decl.name], .message decl⟩ ∨
      (∃ inner ∈ decl.messages, d ∈ inner.declarations (scope.child decl.name) (outer ++ [decl.name])) ∨
      ∃ enum ∈ decl.enums, d =
        ⟨(scope.child decl.name).child enum.name, outer ++ [decl.name] ++ [enum.name], .enum enum⟩ := by
  obtain ⟨name, fields, oneofs, messages, enums, comment, trailingComment, deprecated⟩ := decl
  simp only [declarations, listDeclarations_eq, List.mem_cons, List.mem_append, List.mem_flatMap, List.mem_map, eq_comm]

end MessageDecl

theorem FileDecl.mem_declarations {file : FileDecl} {d : Declaration} : d ∈ file.declarations ↔
    (∃ message ∈ file.messages, d ∈ message.declarations (Identity.ofName (file.package.getD "")) []) ∨
      ∃ enum ∈ file.enums,
        d = ⟨(Identity.ofName (file.package.getD "")).child enum.name, [enum.name], .enum enum⟩ := by
  simp only [declarations, MessageDecl.listDeclarations_eq, List.mem_append, List.mem_flatMap, List.mem_map, eq_comm]

namespace Compiled

/-- A path of names none of which is empty. -/
def IsNamed (path : List String) : Prop :=
  ∀ name ∈ path, name ≠ ""

theorem isNamed_concat {path : List String} {name : String} : IsNamed (path ++ [name]) ↔ IsNamed path ∧ name ≠ "" := by
  simp [IsNamed, or_imp, forall_and]

theorem fullName_ne_empty {path : List String} (h : IsNamed path) (hpath : path ≠ []) : fullName path ≠ "" := by
  cases path with
  | nil => exact absurd rfl hpath
  | cons first rest =>
    have hfirst := h first List.mem_cons_self
    cases rest with
    | nil => exact hfirst
    | cons second rest =>
      intro hempty
      simp [fullName, Text.joinWith, hfirst] at hempty

/-- The catalogue puts full names together as the path does. -/
theorem child_fullName {path : List String} (h : IsNamed path) (name : String) :
    (⟨fullName path⟩ : Identity).child name = ⟨fullName (path ++ [name])⟩ := by
  by_cases hpath : path = []
  · subst hpath
    rfl
  · have hne : (fullName path).isEmpty = false := by simpa using fullName_ne_empty h hpath
    simp [Identity.child, hne, fullName_concat hpath]

namespace Message

section Folded

variable {dialect : Dialect} {path path' : List String} {message message' : Message} {decl : MessageDecl}

/-- The declarations inside a message are those of the messages that are not map entries, in order. -/
theorem FoldsAll.forall₂ {messages : List Message} {decls : List MessageDecl}
    (h : FoldsAll dialect path messages decls) :
    List.Forall₂ (fun nested => Folds dialect (path ++ [nested.name]) nested)
      (messages.filter fun nested => !nested.mapEntry) decls := by
  induction messages generalizing decls with
  | nil =>
    cases h
    exact List.Forall₂.nil
  | cons first rest ih =>
    cases h with
    | entry hentry hrest =>
      rw [List.filter_cons_of_neg (by simp [hentry])]
      exact ih hrest
    | message hmessage hfolds hrest =>
      rw [List.filter_cons_of_pos (by simp [hmessage])]
      exact List.Forall₂.cons hfolds (ih hrest)

theorem mem_filter_not_mapEntry {messages : List Message} {nested : Message} :
    nested ∈ messages.filter (fun nested => !nested.mapEntry) ↔ nested ∈ messages ∧ nested.mapEntry = false := by
  simp

theorem sizeOf_lt_of_mem {nested : Message} (h : nested ∈ message.messages) : sizeOf nested < sizeOf message := by
  have hlist := List.sizeOf_lt_of_mem h
  obtain ⟨name, fields, messages, enums, oneofs, mapEntry, deprecated⟩ := message
  simp only [Message.mk.sizeOf_spec] at hlist ⊢
  omega

theorem Folds.name (h : Folds dialect path message decl) : decl.name = message.name := by
  cases h with
  | intro here _ => exact here.name

/-- A folded message at `path` whose declaration stands in the right scope. -/
structure PlacedAt (dialect : Dialect) (path : List String) (message : Message) (decl : MessageDecl)
    (scope : Identity) : Prop where
  folds : Folds dialect path message decl
  identity : scope.child decl.name = ⟨fullName path⟩
  named : ∀ path' message', Holds path message path' message' → IsNamed path'

theorem PlacedAt.inner {nested : Message} {decl' : MessageDecl} {scope : Identity}
    (h : PlacedAt dialect path message decl scope) (hmem : nested ∈ message.messages) (hentry : nested.mapEntry = false)
    (hfolds : Folds dialect (path ++ [nested.name]) nested decl') :
    PlacedAt dialect (path ++ [nested.name]) nested decl' (scope.child decl.name) where
  folds := hfolds
  identity := by rw [h.identity, hfolds.name, child_fullName (h.named _ _ (Holds.self ..))]
  named path' message' hholds := h.named path' message' (Holds.inner hmem hentry hholds)

/-- What is held by a message is declared with it. -/
theorem PlacedAt.of_holds (hholds : Holds path message path' message') {scope : Identity} (outer : List String)
    (h : PlacedAt dialect path message decl scope) :
    ∃ decl' scope' outer', PlacedAt dialect path' message' decl' scope' ∧
      decl'.declarations scope' outer' ⊆ decl.declarations scope outer := by
  induction hholds generalizing decl scope outer with
  | self => exact ⟨decl, scope, outer, h, List.Subset.refl _⟩
  | inner hmem hentry _ ih =>
    obtain ⟨here, hinner⟩ := h.folds
    obtain ⟨nested, hnested, hfolds⟩ :=
      exists_right_of_forall₂ hinner.forall₂ (mem_filter_not_mapEntry.2 ⟨hmem, hentry⟩)
    obtain ⟨decl', scope', outer', hplaced, hsubset⟩ := ih (outer ++ [decl.name]) (h.inner hmem hentry hfolds)
    refine ⟨decl', scope', outer', hplaced, fun d hd => ?_⟩
    exact MessageDecl.mem_declarations.2 (Or.inr (Or.inl ⟨nested, hnested, hsubset hd⟩))

/-- What is declared with a message is held by it. -/
theorem PlacedAt.of_mem_declarations {d : Declaration} {decl' : MessageDecl} (hitem : d.item = .message decl') :
    ∀ {message : Message} {path : List String} {decl : MessageDecl} {scope : Identity} {outer : List String},
      PlacedAt dialect path message decl scope → d ∈ decl.declarations scope outer →
      ∃ path' message', Holds path message path' message' ∧ d.identity = ⟨fullName path'⟩ ∧
        Folds dialect path' message' decl'
  | message, path, decl, scope, outer, h, hd => by
    obtain ⟨here, hinner⟩ := h.folds
    rcases MessageDecl.mem_declarations.1 hd with rfl | ⟨inner, hmem, hd⟩ | ⟨enum, _, rfl⟩
    · cases hitem
      exact ⟨path, message, Holds.self .., h.identity, h.folds⟩
    · obtain ⟨nested, hmem, hfolds⟩ := exists_left_of_forall₂ hinner.forall₂ hmem
      obtain ⟨hnested, hentry⟩ := mem_filter_not_mapEntry.1 hmem
      obtain ⟨path', message', hholds, hrest⟩ := of_mem_declarations hitem (h.inner hnested hentry hfolds) hd
      exact ⟨path', message', Holds.inner hnested hentry hholds, hrest⟩
    · cases hitem
  termination_by message => sizeOf message
  decreasing_by exact sizeOf_lt_of_mem hnested

/-- The enums of a message are declared with it. -/
theorem PlacedAt.exists_enum {scope : Identity} (outer : List String) (h : PlacedAt dialect path message decl scope)
    {enum : EnumType} (henum : enum ∈ message.enums) :
    ∃ d ∈ decl.declarations scope outer, d.identity = ⟨fullName (path ++ [enum.name])⟩ ∧
      ∃ enumDecl, d.item = .enum enumDecl := by
  obtain ⟨here, _⟩ := h.folds
  obtain ⟨enumDecl, hmem, hname⟩ := List.mem_map.1 (here.enums ▸ List.mem_map_of_mem henum)
  refine ⟨_, MessageDecl.mem_declarations.2 (Or.inr (Or.inr ⟨enumDecl, hmem, rfl⟩)), ?_, enumDecl, rfl⟩
  rw [h.identity, hname, child_fullName (h.named _ _ (Holds.self ..))]

end Folded

end Message

/-! ### Linked sets -/

namespace FileSet

/-- The enums of a compiled schema, by their paths: those of files and those of converted messages. -/
def DeclaresEnum (set : FileSet) (path : List String) : Prop :=
  (∃ file ∈ set.files, ∃ enum ∈ file.enums, path = file.scope ++ [enum.name]) ∨
    ∃ scope message, set.Converts scope message ∧ ∃ enum ∈ message.enums, path = scope ++ [enum.name]

/-- A field whose type, if it is an enum or a message, is declared in the set. -/
def Declares (set : FileSet) (field : Field) : Prop :=
  (field.type = .enum → ∃ path, set.DeclaresEnum path ∧ field.typeName = "." ++ fullName path) ∧
    (field.type = .message → ∃ path message, set.Converts path message ∧ field.typeName = "." ++ fullName path)

/-- All messages have names, no package starts with a dot, and all references lead to something in the set: a field
of a converted message to a declared type or to a map entry inside its message, and the value of such an entry to a
declared type. -/
structure IsLinked (set : FileSet) : Prop where
  names : ∀ path message, set.Converts path message → message.name ≠ ""
  packages : ∀ file ∈ set.files, ∀ package, file.package = some package → package.toList.head? ≠ some '.'
  fields : ∀ path message, set.Converts path message → ∀ field ∈ message.fields, set.Declares field ∨
    field.type = .message ∧ ∃ entry ∈ message.messages, entry.mapEntry = true ∧
      field.typeName = "." ++ fullName (path ++ [entry.name])
  values : ∀ path message, set.Converts path message → ∀ entry ∈ message.messages, entry.mapEntry = true →
    ∀ value, entry.fields.find? (·.number == 2) = some value → set.Declares value

end FileSet

/-! ### Files -/

theorem File.isNamed_scope (file : File) : IsNamed file.scope := by
  intro name hname
  have hfilter : file.package.filter (!·.isEmpty) = some name := Option.mem_toList.1 hname
  have hne := (Option.filter_eq_some_iff.1 hfilter).2
  simpa using hne

theorem Message.Holds.isNamed {path path' : List String} {message message' : Message}
    (h : Message.Holds path message path' message') (hpath : IsNamed path)
    (hnames : ∀ path' message', Message.Holds path message path' message' → message'.name ≠ "") : IsNamed path' := by
  induction h with
  | self => exact hpath
  | inner hmem hentry _ ih =>
    have hnested := fun path' message' hholds => hnames path' message' (Message.Holds.inner hmem hentry hholds)
    exact ih (isNamed_concat.2 ⟨hpath, hnested _ _ (Message.Holds.self ..)⟩) hnested

/-- The catalogue looks at a file from the scope of its package. -/
theorem File.Folds.root {file : File} {decl : FileDecl} (h : file.Folds decl)
    (hpackage : ∀ package, file.package = some package → package.toList.head? ≠ some '.') :
    Identity.ofName (decl.package.getD "") = ⟨fullName file.scope⟩ := by
  rw [h.package, File.scope]
  cases hfilter : file.package.filter (!·.isEmpty) with
  | none => rfl
  | some package =>
    have hhead := hpackage package (Option.filter_eq_some_iff.1 hfilter).1
    show Identity.ofName package = ⟨package⟩
    unfold Identity.ofName
    split
    · rename_i rest hlist
      exact absurd (by rw [hlist]; rfl) hhead
    · rfl

namespace FileSet

section Linked

variable {set : FileSet} {schema : Schema} (hlinked : set.IsLinked)
  (hfolds : List.Forall₂ File.Folds set.files schema.files)

include hlinked

theorem IsLinked.placedAt {file : File} {decl : FileDecl} (hfile : file ∈ set.files) (hdecl : file.Folds decl)
    {outer : Message} {outerDecl : MessageDecl} (houter : outer ∈ file.messages)
    (h : Message.Folds (dialectOf file.dialect) (file.scope ++ [outer.name]) outer outerDecl) :
    Message.PlacedAt (dialectOf file.dialect) (file.scope ++ [outer.name]) outer outerDecl
      (Identity.ofName (decl.package.getD "")) where
  folds := h
  identity := by rw [hdecl.root (hlinked.packages file hfile), h.name, child_fullName file.isNamed_scope]
  named path' message' hholds := by
    have hnames := fun path' message' hholds => hlinked.names path' message' ⟨file, hfile, outer, houter, hholds⟩
    exact hholds.isNamed (isNamed_concat.2 ⟨file.isNamed_scope, hnames _ _ (Message.Holds.self ..)⟩) hnames

include hfolds

/-- A converted message is declared in a file of the schema, under its full name. -/
theorem exists_placedAt {path : List String} {message : Message} (h : set.Converts path message) :
    ∃ dialect decl scope outer, Message.PlacedAt dialect path message decl scope ∧
      ∃ file ∈ schema.files, decl.declarations scope outer ⊆ file.declarations := by
  obtain ⟨file, hfile, outer, houter, hholds⟩ := h
  obtain ⟨decl, hdecl, hfile'⟩ := exists_right_of_forall₂ hfolds hfile
  obtain ⟨outerDecl, houterDecl, hplaced⟩ := exists_right_of_forall₂ hfile'.messages houter
  obtain ⟨decl', scope, path', hplaced', hsubset⟩ :=
    Message.PlacedAt.of_holds hholds [] (hlinked.placedAt hfile hfile' houter hplaced)
  refine ⟨_, decl', scope, path', hplaced', decl, hdecl, fun d hd => ?_⟩
  exact FileDecl.mem_declarations.2 (Or.inl ⟨outerDecl, houterDecl, hsubset hd⟩)

theorem message?_of_converts {path : List String} {message : Message} (h : set.Converts path message) :
    ((Catalog.ofSchema schema).message? ⟨fullName path⟩).isSome = true := by
  obtain ⟨_, decl, scope, outer, hplaced, file, hfile, hsubset⟩ := exists_placedAt hlinked hfolds h
  have hmem := hsubset (MessageDecl.mem_declarations.2 (Or.inl rfl))
  rw [← hplaced.identity]
  exact Catalog.message?_isSome_of_mem hfile hmem rfl

theorem enum?_of_declaresEnum {path : List String} (h : set.DeclaresEnum path) :
    ((Catalog.ofSchema schema).enum? ⟨fullName path⟩).isSome = true := by
  rcases h with ⟨file, hfile, enum, henum, rfl⟩ | ⟨scope, message, hconverts, enum, henum, rfl⟩
  · obtain ⟨decl, hdecl, hfile'⟩ := exists_right_of_forall₂ hfolds hfile
    obtain ⟨enumDecl, henumDecl, hname⟩ := List.mem_map.1 (hfile'.enums ▸ List.mem_map_of_mem henum)
    have hmem := FileDecl.mem_declarations.2 (Or.inr ⟨enumDecl, henumDecl, rfl⟩)
    have hsome := Catalog.enum?_isSome_of_mem hdecl hmem rfl
    rwa [hfile'.root (hlinked.packages file hfile), hname, child_fullName file.isNamed_scope] at hsome
  · obtain ⟨_, decl, scope', outer, hplaced, file, hfile, hsubset⟩ := exists_placedAt hlinked hfolds hconverts
    obtain ⟨d, hd, hidentity, enumDecl, hitem⟩ := hplaced.exists_enum outer henum
    rw [← hidentity]
    exact Catalog.enum?_isSome_of_mem hfile (hsubset hd) hitem

/-- The messages of the catalogue are converted messages, each under its full name. -/
theorem converts_of_mem {entry : Entry MessageDecl} (hentry : entry ∈ (Catalog.ofSchema schema).messages) :
    ∃ dialect path message, set.Converts path message ∧ entry.identity = ⟨fullName path⟩ ∧
      Message.Folds dialect path message entry.decl := by
  obtain ⟨hfile, d, hd, hidentity, hitem⟩ := Catalog.mem_messages_ofSchema hentry
  obtain ⟨file, hfile', hfileFolds⟩ := exists_left_of_forall₂ hfolds (List.fst_mem_of_mem_zipIdx hfile)
  rcases FileDecl.mem_declarations.1 hd with ⟨outerDecl, houterDecl, hd⟩ | ⟨enum, _, rfl⟩
  · obtain ⟨outer, houter, houterFolds⟩ := exists_left_of_forall₂ hfileFolds.messages houterDecl
    obtain ⟨path, message, hholds, hpath, hmessage⟩ :=
      Message.PlacedAt.of_mem_declarations hitem (hlinked.placedAt hfile' hfileFolds houter houterFolds) hd
    exact ⟨_, path, message, ⟨file, hfile', outer, houter, hholds⟩, hidentity.symm.trans hpath, hmessage⟩
  · cases hitem

end Linked

end FileSet

/-! ### What references are resolved to -/

/-- The type that a field has outside a map: an enum or message is the one whose name follows the dot. -/
def Field.Denotes (field : Field) (type : ResolvedType) : Prop :=
  match field.type with
  | .scalar kind => type = .scalar kind
  | .enum => ∃ identity, type = .enum identity ∧ field.typeName = "." ++ identity.name
  | .message => ∃ identity, type = .message identity ∧ field.typeName = "." ++ identity.name
  | .group => type = .group field.typeName

/-- The type that a field of the message at `path` has: a map if it refers to a map entry. -/
def Message.Links (path : List String) (message : Message) (field : Field) (type : ResolvedType) : Prop :=
  match message.entryOf path field with
  | some entry => ∃ key value valueType, entry.MapsTo key value ∧ type = .map key valueType ∧ value.Denotes valueType
  | none => field.Denotes type

theorem Message.entryOf_eq_some {path : List String} {message entry : Message} {field : Field}
    (h : message.entryOf path field = some entry) : entry ∈ message.messages ∧ entry.mapEntry = true := by
  unfold Message.entryOf at h
  split at h
  · have hmem := List.mem_of_find?_eq_some h
    exact List.mem_filter.1 (List.mem_reverse.1 hmem)
  · cases h

theorem Message.entryOf_ne_none {path : List String} {message entry : Message} {field : Field}
    (htype : field.type = .message) (hmem : entry ∈ message.messages) (hentry : entry.mapEntry = true)
    (hname : field.typeName = "." ++ fullName (path ++ [entry.name])) : message.entryOf path field ≠ none := by
  intro hnone
  rw [Message.entryOf, if_pos htype] at hnone
  have hne := List.find?_eq_none.1 hnone entry (List.mem_reverse.2 (List.mem_filter.2 ⟨hmem, hentry⟩))
  simp [hname] at hne

namespace FileSet

section Linked

variable {set : FileSet} {schema : Schema} (hlinked : set.IsLinked)
  (hfolds : List.Forall₂ File.Folds set.files schema.files)

include hlinked hfolds

theorem resolveType_fieldType {field : Field} (h : set.Declares field) (scope : Identity) :
    ∃ type, (Catalog.ofSchema schema).resolveType scope field.fieldType = .ok type ∧ field.Denotes type := by
  unfold Field.fieldType Field.Denotes
  cases htype : field.type with
  | scalar kind => exact ⟨_, rfl, rfl⟩
  | group => exact ⟨_, rfl, rfl⟩
  | enum =>
    obtain ⟨path, hpath, hname⟩ := h.1 htype
    have hresolve : (Catalog.ofSchema schema).resolveEnum scope field.typeName = .ok ⟨fullName path⟩ := by
      rw [hname]
      exact Catalog.resolveName_dot scope (enum?_of_declaresEnum hlinked hfolds hpath)
    exact ⟨_, by rw [Catalog.resolveType_enum, hresolve]; rfl, _, rfl, hname⟩
  | message =>
    obtain ⟨path, message, hpath, hname⟩ := h.2 htype
    have hresolve : (Catalog.ofSchema schema).resolveMessage scope field.typeName = .ok ⟨fullName path⟩ := by
      rw [hname]
      exact Catalog.resolveName_dot scope (message?_of_converts hlinked hfolds hpath)
    exact ⟨_, by rw [Catalog.resolveType_message, hresolve]; rfl, _, rfl, hname⟩

theorem resolveType_of_foldsTo {dialect : Dialect} {path : List String} {message : Message} {field : Field}
    {decl : FieldDecl} (hconverts : set.Converts path message) (hfield : field ∈ message.fields)
    (h : field.FoldsTo dialect path message decl) (scope : Identity) :
    ∃ type, (Catalog.ofSchema schema).resolveType scope decl.type = .ok type ∧ message.Links path field type := by
  have htype := h.type
  unfold Message.Links
  cases hentry : message.entryOf path field with
  | none =>
    rw [hentry] at htype
    rcases hlinked.fields path message hconverts field hfield with hdeclares | ⟨hmessage, entry, hmem, hmap, hname⟩
    · rw [htype.1]
      exact resolveType_fieldType hlinked hfolds hdeclares scope
    · exact absurd hentry (Message.entryOf_ne_none hmessage hmem hmap hname)
  | some entry =>
    rw [hentry] at htype
    obtain ⟨key, value, hmaps, hdecl, _⟩ := htype
    obtain ⟨hmem, hmap⟩ := Message.entryOf_eq_some hentry
    have hdeclares := hlinked.values path message hconverts entry hmem hmap value hmaps.2
    obtain ⟨valueType, hvalue, hdenotes⟩ := resolveType_fieldType hlinked hfolds hdeclares scope
    refine ⟨.map key valueType, ?_, key, value, valueType, hmaps, rfl, hdenotes⟩
    rw [hdecl, Catalog.resolveType_map, hvalue]
    rfl

end Linked

/-- If a linked set is converted, all messages of the catalogue are resolved, and each reference to an enum or message
to the identity with that name. -/
theorem linked_set_resolves (set : FileSet) (hlinked : set.IsLinked) (schema : Schema)
    (hschema : set.toSchema = .ok schema) (discriminator : String) (entry : Entry MessageDecl)
    (hentry : entry ∈ (Catalog.ofSchema schema).messages) :
    ∃ path message resolved, set.Converts path message ∧ entry.identity = ⟨fullName path⟩ ∧
      (Catalog.ofSchema schema).resolve entry.identity discriminator = .ok resolved ∧
      List.Forall₂ (fun field (r : ResolvedField) => r.name = field.name ∧ message.Links path field r.type)
        message.fields resolved.fields := by
  have hsettles := set.toSchema_settles
  rw [hschema] at hsettles
  have hfolds := hsettles.2
  obtain ⟨dialect, path, message, hconverts, hidentity, ⟨here, _⟩⟩ := converts_of_mem hlinked hfolds hentry
  have hlinks : List.Forall₂ (fun field (decl : FieldDecl) => decl.name = field.name ∧
      ∃ type, (Catalog.ofSchema schema).resolveType entry.identity decl.type = .ok type ∧ message.Links path field type)
      message.fields entry.decl.fields :=
    ((List.forall₂_and_left _ _).2 ⟨fun _ hfield => hfield, here.fields⟩).imp fun _ _ ⟨hfield, hfold⟩ =>
      ⟨hfold.name, resolveType_of_foldsTo hlinked hfolds hconverts hfield hfold entry.identity⟩
  have hspec := Catalog.resolve_spec (Catalog.coherent_ofSchema schema) hentry discriminator
  cases hresolve : (Catalog.ofSchema schema).resolve entry.identity discriminator with
  | error e =>
    rw [hresolve] at hspec
    obtain ⟨_, decl, hdecl, hbad⟩ := hspec
    obtain ⟨_, _, _, type, htype, _⟩ := exists_left_of_forall₂ hlinks hdecl
    exact absurd htype (hbad type)
  | ok resolved =>
    rw [hresolve] at hspec
    refine ⟨path, message, resolved, hconverts, hidentity, rfl, forall₂_trans hlinks hspec.fields ?_⟩
    rintro field decl r ⟨hname, type, htype, hlink⟩ hfrom
    cases htype.symm.trans hfrom.type
    exact ⟨hfrom.name.trans hname, hlink⟩

theorem converts_ledger {path : List String} {message : Message} (h : ledger.Converts path message) :
    path = ["bank.v1", "Ledger"] ∧ message = ledgerMessage ∨
      path = ["bank.v1", "Ledger", "Account"] ∧ message = account := by
  obtain ⟨file, hfile, outer, houter, hholds⟩ := h
  cases List.mem_singleton.1 hfile
  cases List.mem_singleton.1 houter
  cases hholds with
  | self => exact Or.inl ⟨by decide +kernel, rfl⟩
  | inner hmem hentry hholds =>
    rcases List.mem_cons.1 hmem with rfl | hmem
    · cases hholds with
      | self => exact Or.inr ⟨by decide +kernel, rfl⟩
      | inner hmem _ _ => cases hmem
    · cases List.mem_singleton.1 hmem
      cases hentry

theorem converts_ledgerMessage : ledger.Converts ["bank.v1", "Ledger"] ledgerMessage :=
  ⟨ledgerFile, List.mem_singleton_self _, ledgerMessage, List.mem_singleton_self _, Message.Holds.self ..⟩

theorem converts_account : ledger.Converts ["bank.v1", "Ledger", "Account"] account :=
  ⟨ledgerFile, List.mem_singleton_self _, ledgerMessage, List.mem_singleton_self _,
    Message.Holds.inner List.mem_cons_self rfl (Message.Holds.self ..)⟩

theorem isLinked_ledger : ledger.IsLinked where
  names path message h := by
    rcases converts_ledger h with ⟨rfl, rfl⟩ | ⟨rfl, rfl⟩ <;> decide
  packages file hfile package hpackage := by
    cases List.mem_singleton.1 hfile
    cases hpackage
    decide +kernel
  fields path message h field hfield := by
    rcases converts_ledger h with ⟨rfl, rfl⟩ | ⟨rfl, rfl⟩
    · simp only [ledgerMessage, List.mem_cons, List.not_mem_nil, or_false] at hfield
      rcases hfield with rfl | rfl | rfl
      · exact Or.inr ⟨rfl, accountsEntry, by simp [ledgerMessage], rfl, by decide +kernel⟩
      · exact Or.inl ⟨nofun, nofun⟩
      · refine Or.inl ⟨fun _ => ⟨["bank.v1", "Currency"], Or.inl ?_, by decide +kernel⟩, nofun⟩
        exact ⟨ledgerFile, List.mem_singleton_self _, _, List.mem_singleton_self _, rfl⟩
    · cases List.mem_singleton.1 hfield
      exact Or.inl ⟨nofun, nofun⟩
  values path message h entry hmem hentry value hvalue := by
    rcases converts_ledger h with ⟨rfl, rfl⟩ | ⟨rfl, rfl⟩
    · rcases List.mem_cons.1 hmem with rfl | hmem
      · cases hentry
      · cases List.mem_singleton.1 hmem
        cases hvalue
        exact ⟨nofun, fun _ => ⟨_, account, converts_account, by decide +kernel⟩⟩
    · cases hmem

theorem linked_set_resolves_ledger :
    ledger.IsLinked ∧ ∃ schema entry, ledger.toSchema = .ok schema ∧ entry ∈ (Catalog.ofSchema schema).messages ∧
      entry.identity = ⟨"bank.v1.Ledger"⟩ ∧ ∃ path message resolved, ledger.Converts path message ∧
        entry.identity = ⟨fullName path⟩ ∧ (Catalog.ofSchema schema).resolve entry.identity "kind" = .ok resolved ∧
        List.Forall₂ (fun field (r : ResolvedField) => r.name = field.name ∧ message.Links path field r.type)
          message.fields resolved.fields := by
  obtain ⟨schema, hschema⟩ := exists_toSchema_ledger
  have hsettles := ledger.toSchema_settles
  rw [hschema] at hsettles
  obtain ⟨entry, hfind⟩ := Option.isSome_iff_exists.1
    (message?_of_converts isLinked_ledger hsettles.2 converts_ledgerMessage)
  have hentry := List.mem_of_find?_eq_some hfind
  have hname : fullName ["bank.v1", "Ledger"] = "bank.v1.Ledger" := by decide +kernel
  have hidentity : entry.identity = ⟨"bank.v1.Ledger"⟩ := by simpa [hname] using List.find?_some hfind
  exact ⟨isLinked_ledger, schema, entry, hschema, hentry, hidentity,
    linked_set_resolves ledger isLinked_ledger schema hschema "kind" entry hentry⟩

end FileSet

end Compiled

end ProtoClass
