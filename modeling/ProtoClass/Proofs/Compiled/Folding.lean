import Mathlib.Data.List.Forall2
import ProtoClass.Compiled.Schema
import ProtoClass.Proofs.Text.Joining

/-!
# What becomes of compiled messages

A compiled schema is converted from the top down.  A message is found by the path of names that leads to it
(`FileSet.Converts`), and the conversion fails exactly if one of the messages found is malformed.  Otherwise each
message is folded into one declaration: map entries are gone, and the fields that refer to them hold maps in their
place (`Message.Folds`).
-/

namespace ProtoClass.Compiled

/-- The full name of what a path of names leads to. -/
def fullName (path : List String) : String :=
  Text.joinWith "." path

theorem fullName_concat {path : List String} (h : path ≠ []) (name : String) :
    fullName (path ++ [name]) = fullName path ++ "." ++ name :=
  Text.joinWith_concat h name

/-- The names a path leads to, as they are put in front of what is declared there. -/
def scopeName (path : List String) : String :=
  if path = [] then "" else "." ++ fullName path

theorem scopeName_concat (path : List String) (name : String) :
    scopeName (path ++ [name]) = scopeName path ++ "." ++ name := by
  by_cases h : path = []
  · subst h
    simp [scopeName, fullName, Text.joinWith]
  · simp [scopeName, h, fullName_concat h, String.append_assoc]

theorem scopeName_eq_dot (path : List String) (name : String) :
    scopeName (path ++ [name]) = "." ++ fullName (path ++ [name]) :=
  if_neg (List.append_ne_nil_of_right_ne_nil path (List.cons_ne_nil name []))

/-- The names around the declarations of a file: its package, if it has one. -/
def File.scope (file : File) : List String :=
  (file.package.filter (!·.isEmpty)).toList

theorem File.scopeName_scope (file : File) :
    scopeName file.scope = ((file.package.filter (!·.isEmpty)).map ("." ++ ·)).getD "" := by
  unfold File.scope
  cases file.package.filter (!·.isEmpty) with
  | none => rfl
  | some package => rfl

namespace Message

/-- The messages at and inside a message that become declarations, with their paths.  A map entry inside a message does
not, and neither does what is inside the entry. -/
inductive Holds : List String → Message → List String → Message → Prop
  | self (path : List String) (message : Message) : Holds path message path message
  | inner {path path' : List String} {message nested message' : Message} (hmem : nested ∈ message.messages)
      (hentry : nested.mapEntry = false) (h : Holds (path ++ [nested.name]) nested path' message') :
      Holds path message path' message'

/-- A map entry without a key field or a value field, or with a key that is not scalar. -/
def IsBrokenEntry (entry : Message) : Prop :=
  (∀ field ∈ entry.fields, field.number ≠ 1) ∨ (∀ field ∈ entry.fields, field.number ≠ 2) ∨
    ∃ key, entry.fields.find? (·.number == 1) = some key ∧ ∀ kind, key.type ≠ .scalar kind

/-- A field of a message with a negative number, or with the index of a oneof that the message does not have. -/
def IsBrokenField (message : Message) (field : Field) : Prop :=
  field.number.toInt < 0 ∨ field.proto3Optional = false ∧
    ∃ index, field.oneofIndex = some index ∧ (index.toInt < 0 ∨ message.oneofs.length ≤ index.toInt)

/-- A message with a broken map entry directly inside it or with a broken field. -/
def IsMalformed (message : Message) : Prop :=
  (∃ entry ∈ message.messages, entry.mapEntry = true ∧ entry.IsBrokenEntry) ∨
    ∃ field ∈ message.fields, message.IsBrokenField field

/-- An entry of a map: its first field numbered 1 is the key, and its first field numbered 2 is the value. -/
def MapsTo (entry : Message) (key : Scalar) (value : Field) : Prop :=
  (∃ field, entry.fields.find? (·.number == 1) = some field ∧ field.type = .scalar key) ∧
    entry.fields.find? (·.number == 2) = some value

/-- The map entry that a field of the message at `path` refers to: the last one with that name inside the message. -/
def entryOf (path : List String) (message : Message) (field : Field) : Option Message :=
  if field.type = .message then
    (message.messages.filter (·.mapEntry)).reverse.find? fun entry =>
      field.typeName == "." ++ fullName (path ++ [entry.name])
  else none

/-- A proto3 optional field points at the oneof at a position.  Positions are counted in 32 bits, as indices are. -/
def IsTaken (message : Message) (position : Nat) : Prop :=
  ∃ field ∈ message.fields, field.proto3Optional = true ∧ field.oneofIndex = some (Int32.ofNat position)

instance (message : Message) (position : Nat) : Decidable (message.IsTaken position) :=
  inferInstanceAs (Decidable (∃ field ∈ message.fields, _))

end Message

/-- A field of the message at `path` and its declaration. -/
structure Field.FoldsTo (dialect : Dialect) (path : List String) (message : Message) (field : Field)
    (decl : FieldDecl) : Prop where
  name : decl.name = field.name
  number : (decl.number.toNat : Int) = field.number.toInt
  /-- a field that refers to a map entry holds a map, and any other is as it was -/
  type : match message.entryOf path field with
    | some entry => ∃ key value, entry.MapsTo key value ∧
        decl.type = .map key value.fieldType ∧ decl.label = .singular
    | none => decl.type = field.fieldType ∧ decl.label = field.cardinality.label dialect
  oneof : ∀ name, decl.oneof = some name ↔ field.proto3Optional = false ∧
    ∃ index, field.oneofIndex = some index ∧ 0 ≤ index.toInt ∧ message.oneofs[index.toInt.toNat]? = some name

/-- A message at `path` and its declaration, but for what is inside it. -/
structure Message.FoldsHere (dialect : Dialect) (path : List String) (message : Message) (decl : MessageDecl) :
    Prop where
  name : decl.name = message.name
  fields : List.Forall₂ (Field.FoldsTo dialect path message) message.fields decl.fields
  oneofs : decl.oneofs.map (·.name) =
    (message.oneofs.zipIdx.filter fun oneof => ¬message.IsTaken oneof.2).map Prod.fst
  enums : decl.enums.map (·.name) = message.enums.map (·.name)

mutual

/-- A message at `path` and its declaration. -/
inductive Message.Folds (dialect : Dialect) : List String → Message → MessageDecl → Prop
  | intro {path : List String} {message : Message} {decl : MessageDecl} (here : FoldsHere dialect path message decl)
      (inner : FoldsAll dialect path message.messages decl.messages) : Folds dialect path message decl

/-- The messages inside the one at `path` and their declarations.  Map entries have none. -/
inductive Message.FoldsAll (dialect : Dialect) : List String → List Message → List MessageDecl → Prop
  | nil (path : List String) : FoldsAll dialect path [] []
  | entry {path : List String} {entry : Message} {rest : List Message} {decls : List MessageDecl}
      (hentry : entry.mapEntry = true) (hrest : FoldsAll dialect path rest decls) :
      FoldsAll dialect path (entry :: rest) decls
  | message {path : List String} {message : Message} {decl : MessageDecl} {rest : List Message}
      {decls : List MessageDecl} (hmessage : message.mapEntry = false)
      (hfolds : Folds dialect (path ++ [message.name]) message decl) (hrest : FoldsAll dialect path rest decls) :
      FoldsAll dialect path (message :: rest) (decl :: decls)

end

/-- A file and its declaration. -/
structure File.Folds (file : File) (decl : FileDecl) : Prop where
  name : decl.name = file.name
  package : decl.package = file.package.filter (!·.isEmpty)
  dialect : decl.dialect = dialectOf file.dialect
  messages : List.Forall₂ (fun message => Message.Folds (dialectOf file.dialect) (file.scope ++ [message.name]) message)
    file.messages decl.messages
  enums : decl.enums.map (·.name) = file.enums.map (·.name)

/-- The messages of a compiled schema that become declarations, with their paths. -/
def FileSet.Converts (set : FileSet) (path : List String) (message : Message) : Prop :=
  ∃ file ∈ set.files, ∃ outer ∈ file.messages, Message.Holds (file.scope ++ [outer.name]) outer path message

section Settling

variable {α β : Type} {wrong wrong' : Prop}

/-- A result is an error exactly if something is wrong, and otherwise it is right. -/
def Settles (result : Except Malformed α) (wrong : Prop) (right : α → Prop) : Prop :=
  match result with
  | .ok a => ¬wrong ∧ right a
  | .error _ => wrong

theorem Settles.bind {right : α → Prop} {right' : β → Prop} {result : Except Malformed α}
    {next : α → Except Malformed β} (h : Settles result wrong right)
    (hnext : ∀ a, right a → Settles (next a) wrong' right') : Settles (result >>= next) (wrong ∨ wrong') right' := by
  cases result with
  | error e => exact Or.inl h
  | ok a =>
    have hthen := hnext a h.2
    show Settles (next a) (wrong ∨ wrong') right'
    cases hresult : next a with
    | error e =>
      rw [hresult] at hthen
      exact Or.inr hthen
    | ok b =>
      rw [hresult] at hthen
      exact ⟨not_or.2 ⟨h.1, hthen.1⟩, hthen.2⟩

theorem Settles.imp {right right' : α → Prop} {result : Except Malformed α} (h : Settles result wrong right)
    (hwrong : wrong ↔ wrong') (hright : ∀ a, right a → right' a) : Settles result wrong' right' := by
  cases result with
  | error e => exact hwrong.1 h
  | ok a => exact ⟨mt hwrong.2 h.1, hright a h.2⟩

theorem Settles.returning {right : α → Prop} {right' : β → Prop} {result : Except Malformed α} {f : α → β}
    (h : Settles result wrong right) (hf : ∀ a, right a → right' (f a)) :
    Settles (result >>= fun a => pure (f a)) wrong right' := by
  cases result with
  | error e => exact h
  | ok a => exact ⟨h.1, hf a h.2⟩

theorem Settles.mapM {wrong : α → Prop} {right : α → β → Prop} {f : α → Except Malformed β} {l : List α}
    (h : ∀ a ∈ l, Settles (f a) (wrong a) (right a)) :
    Settles (l.mapM f) (∃ a ∈ l, wrong a) (List.Forall₂ right l) := by
  induction l with
  | nil => exact ⟨by simp, List.Forall₂.nil⟩
  | cons a rest ih =>
    rw [List.mapM_cons]
    have hrest := ih fun b hb => h b (List.mem_cons_of_mem a hb)
    exact ((h a List.mem_cons_self).bind fun b hb => hrest.returning fun bs hbs => List.Forall₂.cons hb hbs).imp
      (by simp) fun _ => id

theorem Settles.mapM_zipIdx {wrong : α → Prop} {right : α → β → Prop} {f : α × Nat → Except Malformed β} (l : List α)
    (h : ∀ a index, Settles (f (a, index)) (wrong a) (right a)) :
    Settles (l.zipIdx.mapM f) (∃ a ∈ l, wrong a) (List.Forall₂ right l) := by
  have hpairs : Settles (l.zipIdx.mapM f) (∃ pair ∈ l.zipIdx, wrong pair.1)
      (List.Forall₂ (fun pair => right pair.1) l.zipIdx) := Settles.mapM fun pair _ => h pair.1 pair.2
  have hfirst : Settles (l.zipIdx.mapM f) (∃ a ∈ l.zipIdx.map Prod.fst, wrong a)
      (List.Forall₂ right (l.zipIdx.map Prod.fst)) :=
    hpairs.imp (by simp only [List.mem_map, exists_exists_and_eq_and]) fun _ => List.forall₂_map_left_iff.2
  rwa [List.zipIdx_map_fst] at hfirst

end Settling

namespace Message

theorem entryField_settles (entry : Message) (number : Int32) :
    Settles (entry.entryField number) (∀ field ∈ entry.fields, field.number ≠ number)
      fun field => entry.fields.find? (·.number == number) = some field := by
  unfold entryField
  cases hfind : entry.fields.find? (·.number == number) with
  | none =>
    intro field hfield
    simpa using List.find?_eq_none.1 hfind field hfield
  | some field =>
    have hnumber : field.number = number := by simpa using List.find?_some hfind
    exact ⟨fun hnone => hnone field (List.mem_of_find?_eq_some hfind) hnumber, rfl⟩

/-- Map types that are those of an entry. -/
def Describes (entry : Message) (types : MapTypes) : Prop :=
  ∃ value, entry.MapsTo types.key value ∧ types.value = value.fieldType

/-- An entry is broken, or it has map types. -/
theorem mapTypes_settles (entry : Message) : Settles entry.mapTypes entry.IsBrokenEntry entry.Describes := by
  refine (entry.entryField_settles 1).bind fun key hkey => ?_
  cases htype : key.type with
  | scalar kind =>
    have hscalar : ¬∃ key, entry.fields.find? (·.number == 1) = some key ∧ ∀ kind, key.type ≠ .scalar kind := by
      rintro ⟨_, hfound, hnot⟩
      cases hkey.symm.trans hfound
      exact hnot kind htype
    simp only [Field.fieldType, htype]
    exact ((entry.entryField_settles 2).returning fun value hvalue =>
      ⟨value, ⟨⟨key, hkey, htype⟩, hvalue⟩, rfl⟩).imp (by simp [hscalar]) fun _ => id
  | enum | message | group =>
    simp only [Field.fieldType, htype]
    exact Or.inr ⟨key, hkey, by simp [htype]⟩

theorem oneofOf_settles (message : Message) (field : Field) :
    Settles (message.oneofOf field)
      (field.proto3Optional = false ∧
        ∃ index, field.oneofIndex = some index ∧ (index.toInt < 0 ∨ message.oneofs.length ≤ index.toInt))
      fun oneof => ∀ name, oneof = some name ↔ field.proto3Optional = false ∧
        ∃ index, field.oneofIndex = some index ∧ 0 ≤ index.toInt ∧
          message.oneofs[index.toInt.toNat]? = some name := by
  unfold oneofOf
  cases field.oneofIndex with
  | none => exact ⟨by simp, by simp⟩
  | some index =>
    cases field.proto3Optional with
    | true => exact ⟨by simp, by simp⟩
    | false =>
      have hsign : 0 ≤ index ↔ 0 ≤ index.toInt := Int32.le_iff_toInt_le
      dsimp only
      rw [if_neg Bool.false_ne_true]
      by_cases hindex : 0 ≤ index.toInt
      · rw [if_pos (hsign.2 hindex)]
        cases hget : message.oneofs[index.toInt.toNat]? with
        | none =>
          have hlength := List.getElem?_eq_none_iff.1 hget
          exact ⟨rfl, index, rfl, Or.inr (by omega)⟩
        | some name =>
          obtain ⟨hlength, _⟩ := List.getElem?_eq_some_iff.1 hget
          refine ⟨?_, fun name' => ⟨fun h => ⟨rfl, index, rfl, hindex, hget.trans h⟩, ?_⟩⟩
          · rintro ⟨_, _, ⟨⟩, hbad⟩
            omega
          · rintro ⟨_, _, ⟨⟩, _, h⟩
            exact hget.symm.trans h
      · rw [if_neg (mt hsign.1 hindex)]
        exact ⟨rfl, index, rfl, Or.inl (by omega)⟩

/-- The map types of the entries among the messages inside the one at `path`, by the names that fields refer to. -/
def MapsOf (path : List String) (messages : List Message) (maps : List (String × MapTypes)) : Prop :=
  List.Forall₂ (fun entry map => map.1 = "." ++ fullName (path ++ [entry.name]) ∧ entry.Describes map.2)
    (messages.filter (·.mapEntry)) maps

/-- What is looked up among the maps is the map of the entry that the field refers to. -/
theorem MapsOf.lookup {path : List String} {message : Message} {maps : List (String × MapTypes)}
    (h : MapsOf path message.messages maps) (field : Field) :
    match message.entryOf path field with
    | some entry => ∃ types, (if field.type = .message then maps.reverse.lookup field.typeName else none) = some types ∧
        entry.Describes types
    | none => (if field.type = .message then maps.reverse.lookup field.typeName else none) = none := by
  unfold entryOf
  by_cases hfield : field.type = .message
  · simp only [if_pos hfield]
    have hreverse := List.rel_reverse h
    generalize (message.messages.filter (·.mapEntry)).reverse = entries at hreverse ⊢
    generalize maps.reverse = lookups at hreverse ⊢
    induction hreverse with
    | nil => rfl
    | @cons entry map _ _ hentry _ ih =>
      rw [List.find?_cons, List.lookup_cons, ← hentry.1]
      cases field.typeName == map.1 with
      | true => exact ⟨map.2, rfl, hentry.2⟩
      | false => exact ih
  · simp only [if_neg hfield]

theorem toNat_toUInt32 {number : Int32} (h : ¬number.toInt < 0) : (number.toUInt32.toNat : Int) = number.toInt := by
  have hcond := BitVec.toInt_eq_toNat_cond number.toBitVec
  have hlt := number.toBitVec.isLt
  change number.toInt = _ at hcond
  change (number.toBitVec.toNat : Int) = number.toInt
  split at hcond <;> omega

/-- A field is broken, or it is folded. -/
theorem toFieldDecl_settles (context : FileContext) {path : List String} {message : Message}
    {maps : List (String × MapTypes)} (hmaps : MapsOf path message.messages maps) (position : List Int32)
    (field : Field) :
    Settles (message.toFieldDecl context maps position field) (message.IsBrokenField field)
      (field.FoldsTo context.dialect path message) := by
  unfold toFieldDecl
  have hsign : field.number < 0 ↔ field.number.toInt < 0 := Int32.lt_iff_toInt_lt
  by_cases hnumber : field.number.toInt < 0
  · simp only [hsign, hnumber, if_true]
    exact Or.inl hnumber
  · simp only [hsign, hnumber, if_false]
    have hlookup := hmaps.lookup field
    generalize (if field.type = .message then maps.reverse.lookup field.typeName else none) = map at hlookup ⊢
    refine ((message.oneofOf_settles field).returning fun oneof honeof =>
      ⟨rfl, toNat_toUInt32 hnumber, ?_, honeof⟩).imp (by simp [IsBrokenField, hnumber]) fun _ => id
    cases hentry : message.entryOf path field with
    | none =>
      rw [hentry] at hlookup
      subst hlookup
      exact ⟨rfl, rfl⟩
    | some entry =>
      rw [hentry] at hlookup
      obtain ⟨types, rfl, value, hvalue, htypes⟩ := hlookup
      exact ⟨types.key, value, hvalue, congrArg (FieldType.map types.key) htypes, rfl⟩

theorem map_name_enums (context : FileContext) (positions : Nat → List Int32) (enums : List EnumType) :
    (enums.zipIdx.map fun (enum, index) => enum.toDecl context (positions index)).map (·.name) =
      enums.map (·.name) := by
  calc _ = (enums.zipIdx.map Prod.fst).map (·.name) := by rw [List.map_map, List.map_map]; rfl
    _ = enums.map (·.name) := by rw [List.zipIdx_map_fst]

theorem isSynthetic_iff (message : Message) (position : Nat) :
    message.isSynthetic position = true ↔ message.IsTaken position := by
  simp [isSynthetic, IsTaken]

theorem map_name_toOneofDecls (context : FileContext) (position : List Int32) (message : Message) :
    (message.toOneofDecls context position).map (·.name) =
      (message.oneofs.zipIdx.filter fun oneof => ¬message.IsTaken oneof.2).map Prod.fst := by
  simp only [toOneofDecls, List.map_map, ← isSynthetic_iff, Bool.not_eq_true, Bool.decide_eq_false]
  rfl

/-- Something is malformed at or inside the message at `path`. -/
def MalformedAt (path : List String) (message : Message) : Prop :=
  ∃ path' message', Holds path message path' message' ∧ message'.IsMalformed

/-- Something is wrong with a message inside the one at `path`. -/
def SpoiltAt (path : List String) (message : Message) : Prop :=
  message.mapEntry = true ∧ message.IsBrokenEntry ∨
    message.mapEntry = false ∧ MalformedAt (path ++ [message.name]) message

theorem malformedAt_iff {path : List String} {message : Message} :
    MalformedAt path message ↔
      (∃ nested ∈ message.messages, SpoiltAt path nested) ∨ ∃ field ∈ message.fields, message.IsBrokenField field := by
  constructor
  · rintro ⟨path', message', hholds, hbad⟩
    cases hholds with
    | self =>
      rcases hbad with ⟨entry, hmem, hentry⟩ | hfields
      · exact Or.inl ⟨entry, hmem, Or.inl hentry⟩
      · exact Or.inr hfields
    | inner hmem hentry h => exact Or.inl ⟨_, hmem, Or.inr ⟨hentry, path', message', h, hbad⟩⟩
  · rintro (⟨nested, hmem, hentry | ⟨hentry, path', message', h, hbad⟩⟩ | hfields)
    · exact ⟨path, message, Holds.self .., Or.inl ⟨nested, hmem, hentry⟩⟩
    · exact ⟨path', message', Holds.inner hmem hentry h, hbad⟩
    · exact ⟨path, message, Holds.self .., Or.inr hfields⟩

mutual

/-- Something in a message is malformed, or it is folded. -/
theorem toDecl_settles (context : FileContext) (scope : List String) (position : List Int32) : ∀ message : Message,
    Settles (message.toDecl context (scopeName scope) position) (MalformedAt (scope ++ [message.name]) message)
      (Folds context.dialect (scope ++ [message.name]) message)
  | ⟨name, fields, messages, enums, oneofs, mapEntry, deprecated⟩ => by
    rw [toDecl, ← scopeName_concat, malformedAt_iff]
    refine (innerDecls_settles context (scope ++ [name]) position 0 messages).bind fun inner hinner => ?_
    exact (Settles.mapM_zipIdx fields fun field index =>
      toFieldDecl_settles context hinner.1 (below position 2 index) field).returning fun decls hdecls =>
        Folds.intro ⟨rfl, hdecls, map_name_toOneofDecls .., map_name_enums context (below position 4) enums⟩ hinner.2

/-- Something in the messages inside another is wrong, or they are folded. -/
theorem innerDecls_settles (context : FileContext) (path : List String) (position : List Int32) (index : Nat) :
    ∀ messages : List Message,
    Settles (innerDecls context (scopeName path) position index messages) (∃ nested ∈ messages, SpoiltAt path nested)
      fun inner => MapsOf path messages inner.1 ∧ FoldsAll context.dialect path messages inner.2
  | [] => ⟨by simp, List.Forall₂.nil, FoldsAll.nil path⟩
  | message :: rest => by
    have hrest := innerDecls_settles context path position (index + 1) rest
    rw [innerDecls]
    by_cases hentry : message.mapEntry = true
    · have hspoilt : SpoiltAt path message ↔ message.IsBrokenEntry := by simp [SpoiltAt, hentry]
      have hmaps : ∀ types maps, message.Describes types → MapsOf path rest maps →
          MapsOf path (message :: rest) ((scopeName path ++ "." ++ message.name, types) :: maps) := by
        intro types maps htypes hmaps
        rw [MapsOf, List.filter_cons_of_pos hentry, ← scopeName_concat, scopeName_eq_dot]
        exact List.Forall₂.cons ⟨rfl, htypes⟩ hmaps
      rw [if_pos hentry]
      exact ((mapTypes_settles message).bind fun types htypes => hrest.returning fun inner hinner =>
        ⟨hmaps types inner.1 htypes hinner.1, FoldsAll.entry hentry hinner.2⟩).imp (by simp [hspoilt]) fun _ => id
    · have hspoilt : SpoiltAt path message ↔ MalformedAt (path ++ [message.name]) message := by simp [SpoiltAt, hentry]
      have hmaps : ∀ maps, MapsOf path rest maps → MapsOf path (message :: rest) maps := by
        intro maps hmaps
        rw [MapsOf, List.filter_cons_of_neg hentry]
        exact hmaps
      have hmessage := toDecl_settles context path (below position 3 index) message
      rw [if_neg hentry]
      exact (hmessage.bind fun decl hdecl => hrest.returning fun inner hinner =>
        ⟨hmaps inner.1 hinner.1, FoldsAll.message (by simpa using hentry) hdecl hinner.2⟩).imp
          (by simp [hspoilt]) fun _ => id

end

end Message

theorem File.toDecl_settles (file : File) :
    Settles file.toDecl (∃ message ∈ file.messages, Message.MalformedAt (file.scope ++ [message.name]) message)
      file.Folds := by
  unfold File.toDecl
  dsimp only
  rw [← File.scopeName_scope]
  exact (Settles.mapM_zipIdx file.messages fun message index =>
    Message.toDecl_settles _ file.scope [4, Int32.ofNat index] message).returning fun decls hdecls =>
      ⟨rfl, rfl, rfl, hdecls, Message.map_name_enums _ (fun index => [5, Int32.ofNat index]) file.enums⟩

namespace FileSet

theorem exists_malformed_iff (set : FileSet) :
    (∃ path message, set.Converts path message ∧ message.IsMalformed) ↔
      ∃ file ∈ set.files, ∃ message ∈ file.messages, Message.MalformedAt (file.scope ++ [message.name]) message := by
  constructor
  · rintro ⟨path, message, ⟨file, hfile, outer, houter, hholds⟩, hbad⟩
    exact ⟨file, hfile, outer, houter, path, message, hholds, hbad⟩
  · rintro ⟨file, hfile, outer, houter, path, message, hholds, hbad⟩
    exact ⟨path, message, ⟨file, hfile, outer, houter, hholds⟩, hbad⟩

theorem toSchema_settles (set : FileSet) :
    Settles set.toSchema (∃ path message, set.Converts path message ∧ message.IsMalformed)
      fun schema => List.Forall₂ File.Folds set.files schema.files := by
  rw [exists_malformed_iff]
  exact (Settles.mapM fun file _ => File.toDecl_settles file).returning fun _ => id

/-- The conversion of a compiled schema fails exactly if a message in it is malformed, and otherwise folds each file. -/
theorem toSchema_folds_exactly (set : FileSet) :
    ((∃ e, set.toSchema = .error e) ↔ ∃ path message, set.Converts path message ∧ message.IsMalformed) ∧
      ∀ schema, set.toSchema = .ok schema → List.Forall₂ File.Folds set.files schema.files := by
  have hsettles := set.toSchema_settles
  cases hschema : set.toSchema with
  | error e =>
    rw [hschema] at hsettles
    exact ⟨⟨fun _ => hsettles, fun _ => ⟨e, rfl⟩⟩, fun schema h => by cases h⟩
  | ok schema =>
    rw [hschema] at hsettles
    refine ⟨⟨?_, fun hbad => absurd hbad hsettles.1⟩, ?_⟩
    · rintro ⟨e, ⟨⟩⟩
    · rintro _ ⟨⟩
      exact hsettles.2

def account : Message where
  name := "Account"
  fields := [{ name := "owner", number := 1, type := .scalar .string }]

def accountsEntry : Message where
  name := "AccountsEntry"
  fields :=
    [{ name := "key", number := 1, type := .scalar .string },
     { name := "value", number := 2, type := .message, typeName := ".bank.v1.Ledger.Account" }]
  mapEntry := true

/-- A message with a map of messages that are declared inside it, an optional field, and a oneof. -/
def ledgerMessage : Message where
  name := "Ledger"
  fields :=
    [{ name := "accounts", number := 1, cardinality := .repeated, type := .message,
       typeName := ".bank.v1.Ledger.AccountsEntry" },
     { name := "note", number := 2, type := .scalar .string, oneofIndex := some 1, proto3Optional := true },
     { name := "currency", number := 3, type := .enum, typeName := ".bank.v1.Currency", oneofIndex := some 0 }]
  messages := [account, accountsEntry]
  oneofs := ["unit", "_note"]

def ledgerFile : File where
  name := "ledger.proto"
  package := some "bank.v1"
  dialect := "proto3"
  messages := [ledgerMessage]
  enums := [{ name := "Currency" }]

def ledger : FileSet := ⟨[ledgerFile]⟩

theorem exists_toSchema_ledger : ∃ schema, ledger.toSchema = .ok schema := by
  have hok : ledger.toSchema.toOption.isSome = true := by decide +kernel
  cases hschema : ledger.toSchema with
  | error e =>
    rw [hschema] at hok
    cases hok
  | ok schema => exact ⟨schema, rfl⟩

theorem toSchema_folds_exactly_ledger :
    (¬∃ path message, ledger.Converts path message ∧ message.IsMalformed) ∧
      ∃ schema, ledger.toSchema = .ok schema ∧ List.Forall₂ File.Folds ledger.files schema.files := by
  obtain ⟨schema, hschema⟩ := exists_toSchema_ledger
  obtain ⟨hfails, hfolds⟩ := toSchema_folds_exactly ledger
  refine ⟨fun hbad => ?_, schema, hschema, hfolds schema hschema⟩
  obtain ⟨e, he⟩ := hfails.2 hbad
  cases hschema.symm.trans he

end FileSet

end ProtoClass.Compiled
