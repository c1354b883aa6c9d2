import ProtoClass.Proofs.Compiled.Folding
import ProtoClass.Proofs.Text.Blank

/-!
# Comments of declarations

A location of a compiled file holds comments for the element that its path leads to (`File.LeadsTo`): two numbers a
step, the first for the list and the second for the position in it.  The conversion drops map entries and synthetic
oneofs, but positions count them still.

The elements that are kept stand in one order in the file (`File.places`) and in its declaration
(`FileDecl.elements`), so that they can be compared one by one.  The comment of a declaration is that of the last
location with any text at the path of its element (`commentAt`).
-/

namespace ProtoClass

/-- What can have a comment in a declaration of a file. -/
inductive ElementDecl where
  | message (decl : MessageDecl)
  | field (decl : FieldDecl)
  | oneof (decl : OneofDecl)
  | enum (decl : EnumDecl)
  | value (decl : EnumValueDecl)

namespace ElementDecl

def leading : ElementDecl → Option String
  | message decl => decl.comment
  | field decl => decl.comment
  | oneof decl => decl.comment
  | enum decl => decl.comment
  | value decl => decl.comment

/-- The comment behind a message or a field; the others have no place for one. -/
def trailing? : ElementDecl → Option (Option String)
  | message decl => some decl.trailingComment
  | field decl => some decl.trailingComment
  | oneof _ | enum _ | value _ => none

end ElementDecl

def EnumDecl.elements (decl : EnumDecl) : List ElementDecl :=
  .enum decl :: decl.values.map .value

mutual

/-- A message and all that is declared inside it. -/
def MessageDecl.elements : MessageDecl → List ElementDecl
  | ⟨name, fields, oneofs, messages, enums, comment, trailingComment, deprecated⟩ =>
    .message ⟨name, fields, oneofs, messages, enums, comment, trailingComment, deprecated⟩ ::
      (fields.map .field ++ oneofs.map .oneof ++ enums.flatMap EnumDecl.elements ++
        MessageDecl.innerElements messages)

def MessageDecl.innerElements : List MessageDecl → List ElementDecl
  | [] => []
  | decl :: rest => decl.elements ++ innerElements rest

end

def FileDecl.elements (decl : FileDecl) : List ElementDecl :=
  decl.messages.flatMap MessageDecl.elements ++ decl.enums.flatMap EnumDecl.elements

namespace Compiled

/-! ### The comment at a path -/

/-- The lines of a comment without the blank in front of them and their blank ends, and without empty lines around
them. -/
def cleanedText (raw : String) : String :=
  Text.trimLineFeeds (Text.joinWith "\n" ((Text.lines raw).map cleanLine))

/-- A location with a comment that is not blank. -/
def Location.hasText (location : Location) : Bool :=
  (location.leading.any fun raw => ¬Text.AllBlank raw) || location.trailing.any fun raw => ¬Text.AllBlank raw

/-- The comment that the last location with any text at a path has on one side. -/
def commentAt (locations : List Location) (path : List Int32) (side : Location → Option String) : Option String :=
  ((locations.reverse.find? fun location => location.path == path && location.hasText).bind side).bind fun raw =>
    if Text.AllBlank raw then none else some (cleanedText raw)

theorem cleanLine_eq_empty {line : String} (h : Text.AllBlank line) : cleanLine line = "" := by
  unfold cleanLine
  split
  · next rest hline =>
    exact Text.trimEnd_eq_empty (Text.allBlank_ofList.2 fun c hc => h c (hline ▸ List.mem_cons_of_mem _ hc))
  · exact Text.trimEnd_eq_empty h

theorem allBlank_of_cleanLine {line : String} (h : Text.AllBlank (cleanLine line)) : Text.AllBlank line := by
  unfold cleanLine at h
  split at h
  · next rest hline =>
    rw [Text.allBlank_trimEnd, Text.allBlank_ofList] at h
    rw [Text.AllBlank, hline, List.forall_mem_cons]
    exact ⟨by decide, h⟩
  · exact Text.allBlank_trimEnd.1 h

/-- Cleaning leaves nothing exactly of a blank comment. -/
theorem cleanedText_eq_empty {raw : String} : cleanedText raw = "" ↔ Text.AllBlank raw := by
  rw [cleanedText, Text.trimLineFeeds_eq_empty, Text.forall_mem_joinWith (by simp), List.forall_mem_map,
    ← Text.allBlank_lines]
  refine forall₂_congr fun line _ => ⟨fun h => allBlank_of_cleanLine fun c hc => ?_, fun h => ?_⟩
  · rw [h c hc]
    decide
  · simp [cleanLine_eq_empty h]

theorem cleanComment?_eq (raw : String) :
    cleanComment? raw = if Text.AllBlank raw then none else some (cleanedText raw) := by
  have hempty : (cleanedText raw).isEmpty = true ↔ Text.AllBlank raw :=
    String.isEmpty_iff.trans cleanedText_eq_empty
  show (if (cleanedText raw).isEmpty then none else some (cleanedText raw)) = _
  simp only [hempty]

theorem isSome_bind_cleanComment? (comment : Option String) :
    (comment.bind cleanComment?).isSome = comment.any fun raw => ¬Text.AllBlank raw := by
  cases comment with
  | none => rfl
  | some raw =>
    rw [Option.bind_some, cleanComment?_eq]
    by_cases h : Text.AllBlank raw <;> simp [h]

theorem find?_comments (locations : List Location) (path : List Int32) :
    (comments locations).find? (·.path == path) =
      (locations.reverse.find? fun location => location.path == path && location.hasText).map Location.clean := by
  have htext (location : Location) : location.clean.hasComment = location.hasText :=
    congrArg₂ or (isSome_bind_cleanComment? location.leading) (isSome_bind_cleanComment? location.trailing)
  rw [comments, ← List.filter_reverse, ← List.map_reverse, List.find?_filter, List.find?_map]
  congr 2
  funext location
  have hpath : location.clean.path = location.path := rfl
  by_cases h : location.path = path <;> simp [htext, hpath, h]

/-- What is found among the cleaned locations, for a side that is cleaned by itself. -/
theorem bind_find?_comments (locations : List Location) (path : List Int32) {side : Location → Option String}
    (hside : ∀ location, side location.clean = (side location).bind cleanComment?) :
    ((comments locations).find? (·.path == path)).bind side = commentAt locations path side := by
  rw [find?_comments, commentAt]
  cases locations.reverse.find? fun location => location.path == path && location.hasText with
  | none => rfl
  | some location => exact (hside location).trans (congrArg (side location).bind (funext cleanComment?_eq))

section Context

variable {context : FileContext} {locations : List Location} (hcontext : context.comments = comments locations)

include hcontext

theorem leading_eq_commentAt (path : List Int32) : context.leading path = commentAt locations path (·.leading) := by
  rw [FileContext.leading, hcontext]
  exact bind_find?_comments locations path fun _ => rfl

theorem trailing_eq_commentAt (path : List Int32) : context.trailing path = commentAt locations path (·.trailing) := by
  rw [FileContext.trailing, hcontext]
  exact bind_find?_comments locations path fun _ => rfl

end Context

/-! ### Elements and their paths -/

/-- What can have a comment in a compiled file. -/
inductive Element where
  | message (message : Message)
  | field (field : Field)
  | oneof (name : String)
  | enum (enum : EnumType)
  | value (value : EnumValue)

/-- A declaration of the kind and the name of an element. -/
def Element.Becomes : Element → ElementDecl → Prop
  | .message source, .message decl => decl.name = source.name
  | .field source, .field decl => decl.name = source.name
  | .oneof name, .oneof decl => decl.name = name
  | .enum source, .enum decl => decl.name = source.name
  | .value source, .value decl => decl.name = source.name
  | _, _ => False

/-- The element of a file that a path leads to.  Positions are those in the lists of the file, where nothing is dropped
yet, and they are counted in 32 bits. -/
inductive File.LeadsTo (file : File) : List Int32 → Element → Prop
  | message {index : Nat} {message : Message} (h : file.messages[index]? = some message) :
      LeadsTo file [4, Int32.ofNat index] (.message message)
  | enum {index : Nat} {enum : EnumType} (h : file.enums[index]? = some enum) :
      LeadsTo file [5, Int32.ofNat index] (.enum enum)
  | field {path : List Int32} {outer : Message} {index : Nat} {field : Field}
      (houter : LeadsTo file path (.message outer)) (h : outer.fields[index]? = some field) :
      LeadsTo file (path ++ [2, Int32.ofNat index]) (.field field)
  | innerMessage {path : List Int32} {outer message : Message} {index : Nat}
      (houter : LeadsTo file path (.message outer)) (h : outer.messages[index]? = some message) :
      LeadsTo file (path ++ [3, Int32.ofNat index]) (.message message)
  | innerEnum {path : List Int32} {outer : Message} {index : Nat} {enum : EnumType}
      (houter : LeadsTo file path (.message outer)) (h : outer.enums[index]? = some enum) :
      LeadsTo file (path ++ [4, Int32.ofNat index]) (.enum enum)
  | oneof {path : List Int32} {outer : Message} {index : Nat} {name : String}
      (houter : LeadsTo file path (.message outer)) (h : outer.oneofs[index]? = some name) :
      LeadsTo file (path ++ [8, Int32.ofNat index]) (.oneof name)
  | value {path : List Int32} {outer : EnumType} {index : Nat} {value : EnumValue}
      (houter : LeadsTo file path (.enum outer)) (h : outer.values[index]? = some value) :
      LeadsTo file (path ++ [2, Int32.ofNat index]) (.value value)

/-- An element and its path. -/
structure Place where
  path : List Int32
  element : Element

def EnumType.places (path : List Int32) (enum : EnumType) : List Place :=
  ⟨path, .enum enum⟩ :: enum.values.zipIdx.map fun value => ⟨below path 2 value.2, .value value.1⟩

mutual

/-- A message and what is kept of what is inside it. -/
def Message.places (path : List Int32) : Message → List Place
  | ⟨name, fields, messages, enums, oneofs, mapEntry, deprecated⟩ =>
    let message : Message := ⟨name, fields, messages, enums, oneofs, mapEntry, deprecated⟩
    ⟨path, .message message⟩ ::
      (fields.zipIdx.map (fun field => ⟨below path 2 field.2, .field field.1⟩) ++
        (oneofs.zipIdx.filter fun oneof => ¬message.IsTaken oneof.2).map
          (fun oneof => ⟨below path 8 oneof.2, .oneof oneof.1⟩) ++
        enums.zipIdx.flatMap (fun enum => enum.1.places (below path 4 enum.2)) ++
        Message.innerPlaces path 0 messages)

/-- The messages inside the one at a path, from the one with index `index` on, without the map entries. -/
def Message.innerPlaces (path : List Int32) (index : Nat) : List Message → List Place
  | [] => []
  | message :: rest =>
    (if message.mapEntry then [] else message.places (below path 3 index)) ++ innerPlaces path (index + 1) rest

end

def File.places (file : File) : List Place :=
  file.messages.zipIdx.flatMap (fun message => message.1.places [4, Int32.ofNat message.2]) ++
    file.enums.zipIdx.flatMap fun enum => enum.1.places [5, Int32.ofNat enum.2]

section Paths

variable {file : File} {path : List Int32}

theorem EnumType.leadsTo_places {enum : EnumType} (h : file.LeadsTo path (.enum enum)) :
    ∀ place ∈ enum.places path, file.LeadsTo place.path place.element := by
  rw [EnumType.places, List.forall_mem_cons, List.forall_mem_map]
  exact ⟨h, fun value hvalue => .value h (List.mem_zipIdx_iff_getElem?.1 hvalue)⟩

mutual

theorem Message.leadsTo_places {path : List Int32} : ∀ {message : Message}, file.LeadsTo path (.message message) →
    ∀ place ∈ message.places path, file.LeadsTo place.path place.element
  | ⟨name, fields, messages, enums, oneofs, mapEntry, deprecated⟩, h => by
    rw [Message.places, List.forall_mem_cons]
    refine ⟨h, ?_⟩
    simp only [List.forall_mem_append, List.forall_mem_map, List.forall_mem_flatMap]
    refine ⟨⟨⟨fun field hfield => ?_, fun oneof honeof => ?_⟩, fun enum henum => ?_⟩, ?_⟩
    · exact .field h (List.mem_zipIdx_iff_getElem?.1 hfield)
    · exact .oneof h (List.mem_zipIdx_iff_getElem?.1 (List.mem_of_mem_filter honeof))
    · exact EnumType.leadsTo_places (.innerEnum h (List.mem_zipIdx_iff_getElem?.1 henum))
    · exact Message.leadsTo_innerPlaces h rfl

theorem Message.leadsTo_innerPlaces {path : List Int32} {outer : Message} (h : file.LeadsTo path (.message outer)) :
    ∀ {index : Nat} {messages : List Message}, outer.messages.drop index = messages →
      ∀ place ∈ Message.innerPlaces path index messages, file.LeadsTo place.path place.element
  | _, [], _ => by simp [Message.innerPlaces]
  | index, message :: rest, hdrop => by
    have hmessage : outer.messages[index]? = some message := by
      rw [← List.head?_drop, hdrop, List.head?_cons]
    have hrest : outer.messages.drop (index + 1) = rest := by
      rw [← List.tail_drop, hdrop, List.tail_cons]
    rw [Message.innerPlaces, List.forall_mem_append]
    refine ⟨?_, Message.leadsTo_innerPlaces h hrest⟩
    split
    · simp
    · exact Message.leadsTo_places (.innerMessage h hmessage)

end

theorem File.leadsTo_places (file : File) : ∀ place ∈ file.places, file.LeadsTo place.path place.element := by
  simp only [File.places, List.forall_mem_append, List.forall_mem_flatMap]
  exact ⟨fun message hmessage => Message.leadsTo_places (.message (List.mem_zipIdx_iff_getElem?.1 hmessage)),
    fun enum henum => EnumType.leadsTo_places (.enum (List.mem_zipIdx_iff_getElem?.1 henum))⟩

end Paths

/-! ### The comments of declarations -/

/-- A declaration of the element at a place, with the comments that the locations have for it. -/
structure Place.Gives (locations : List Location) (place : Place) (decl : ElementDecl) : Prop where
  becomes : place.element.Becomes decl
  leading : decl.leading = commentAt locations place.path (·.leading)
  trailing : ∀ comment ∈ decl.trailing?, comment = commentAt locations place.path (·.trailing)

theorem bind_eq_ok {α β : Type} {result : Except Malformed α} {next : α → Except Malformed β} {b : β} :
    (result >>= next) = .ok b ↔ ∃ a, result = .ok a ∧ next a = .ok b := by
  cases result <;> simp [bind, Except.bind]

theorem forall₂_of_mapM_eq_ok {α β : Type} {f : α → Except Malformed β} {l : List α} {bs : List β}
    (h : l.mapM f = .ok bs) : List.Forall₂ (fun a b => f a = .ok b) l bs := by
  have hall : Settles (l.mapM f) (∃ a ∈ l, ∃ e, f a = .error e) (List.Forall₂ (fun a b => f a = .ok b) l) := by
    refine Settles.mapM fun a _ => ?_
    cases f a with
    | error e => exact ⟨e, rfl⟩
    | ok b => exact ⟨by simp, rfl⟩
  rw [h] at hall
  exact hall.2

section Gives

variable {context : FileContext} {locations : List Location} (hcontext : context.comments = comments locations)

include hcontext

theorem gives_toFieldDecl {message : Message} {maps : List (String × MapTypes)} {path : List Int32} {field : Field}
    {decl : FieldDecl} (h : message.toFieldDecl context maps path field = .ok decl) :
    Place.Gives locations ⟨path, .field field⟩ (.field decl) := by
  unfold Message.toFieldDecl at h
  by_cases hnumber : field.number < 0
  · rw [if_pos hnumber] at h
    cases h
  · rw [if_neg hnumber] at h
    obtain ⟨oneof, _, hdecl⟩ := bind_eq_ok.1 h
    cases hdecl
    refine ⟨rfl, leading_eq_commentAt hcontext path, ?_⟩
    rintro _ ⟨⟩
    exact trailing_eq_commentAt hcontext path

theorem gives_toOneofDecls (path : List Int32) (message : Message) :
    List.Forall₂ (Place.Gives locations)
      ((message.oneofs.zipIdx.filter fun oneof => ¬message.IsTaken oneof.2).map
        fun oneof => ⟨below path 8 oneof.2, .oneof oneof.1⟩)
      ((message.toOneofDecls context path).map .oneof) := by
  simp only [Message.toOneofDecls, ← Message.isSynthetic_iff, Bool.not_eq_true, Bool.decide_eq_false,
    List.forall₂_map_left_iff, List.forall₂_map_right_iff]
  exact List.forall₂_same.2 fun oneof _ => ⟨rfl, leading_eq_commentAt hcontext _, by rintro _ ⟨⟩⟩

theorem EnumType.gives_toDecl (path : List Int32) (enum : EnumType) :
    List.Forall₂ (Place.Gives locations) (enum.places path) (enum.toDecl context path).elements := by
  refine List.Forall₂.cons ⟨rfl, leading_eq_commentAt hcontext path, by rintro _ ⟨⟩⟩ ?_
  simp only [EnumType.toDecl, List.forall₂_map_left_iff, List.forall₂_map_right_iff]
  exact List.forall₂_same.2 fun value _ => ⟨rfl, leading_eq_commentAt hcontext _, by rintro _ ⟨⟩⟩

theorem gives_enums (position : Nat → List Int32) (enums : List EnumType) :
    List.Forall₂ (Place.Gives locations) (enums.zipIdx.flatMap fun enum => enum.1.places (position enum.2))
      ((enums.zipIdx.map fun enum => enum.1.toDecl context (position enum.2)).flatMap EnumDecl.elements) := by
  rw [List.flatMap_map]
  refine List.rel_flatMap (List.forall₂_same.2 fun _ _ => rfl) ?_
  rintro enum _ rfl
  exact EnumType.gives_toDecl hcontext _ enum.1

end Gives

mutual

/-- What is kept of a message is declared with its comments. -/
theorem Message.gives_toDecl {context : FileContext} {locations : List Location}
    (hcontext : context.comments = comments locations) (scope : String) (path : List Int32) :
    ∀ (message : Message) {decl : MessageDecl}, message.toDecl context scope path = .ok decl →
      List.Forall₂ (Place.Gives locations) (message.places path) decl.elements
  | ⟨name, fields, messages, enums, oneofs, mapEntry, deprecated⟩, decl, h => by
    rw [Message.toDecl] at h
    obtain ⟨inner, hinner, h⟩ := bind_eq_ok.1 h
    obtain ⟨fieldDecls, hfields, h⟩ := bind_eq_ok.1 h
    cases h
    rw [Message.places, MessageDecl.elements]
    refine List.Forall₂.cons ⟨rfl, leading_eq_commentAt hcontext path, ?_⟩ ?_
    · rintro _ ⟨⟩
      exact trailing_eq_commentAt hcontext path
    · have hfieldsGive := (forall₂_of_mapM_eq_ok hfields).imp fun field decl hfield =>
        gives_toFieldDecl hcontext hfield
      refine List.rel_append (List.rel_append (List.rel_append ?_ ?_) ?_) ?_
      · rwa [List.forall₂_map_left_iff, List.forall₂_map_right_iff]
      · exact gives_toOneofDecls hcontext path _
      · exact gives_enums hcontext (below path 4) enums
      · exact Message.gives_innerDecls hcontext _ path 0 messages hinner

/-- What is kept of the messages inside another is declared with its comments. -/
theorem Message.gives_innerDecls {context : FileContext} {locations : List Location}
    (hcontext : context.comments = comments locations) (scope : String) (path : List Int32) (index : Nat) :
    ∀ (messages : List Message) {inner : List (String × MapTypes) × List MessageDecl},
      Message.innerDecls context scope path index messages = .ok inner →
        List.Forall₂ (Place.Gives locations) (Message.innerPlaces path index messages)
          (MessageDecl.innerElements inner.2)
  | [], inner, h => by
    cases h
    exact List.Forall₂.nil
  | message :: rest, inner, h => by
    rw [Message.innerDecls] at h
    rw [Message.innerPlaces]
    -- the position goes on past a map entry, though nothing is declared for it
    split at h
    · next hentry =>
      obtain ⟨types, _, h⟩ := bind_eq_ok.1 h
      obtain ⟨others, hothers, h⟩ := bind_eq_ok.1 h
      have hrest := Message.gives_innerDecls hcontext scope path (index + 1) rest hothers
      cases h
      rw [if_pos hentry]
      exact hrest
    · next hentry =>
      obtain ⟨decl, hdecl, h⟩ := bind_eq_ok.1 h
      obtain ⟨others, hothers, h⟩ := bind_eq_ok.1 h
      cases h
      rw [if_neg hentry, MessageDecl.innerElements]
      exact List.rel_append (Message.gives_toDecl hcontext scope _ message hdecl)
        (Message.gives_innerDecls hcontext scope path (index + 1) rest hothers)

end

theorem File.gives_toDecl {file : File} {decl : FileDecl} (h : file.toDecl = .ok decl) :
    List.Forall₂ (Place.Gives file.locations) file.places decl.elements := by
  unfold File.toDecl at h
  obtain ⟨messages, hmessages, h⟩ := bind_eq_ok.1 h
  cases h
  refine List.rel_append (List.rel_flatMap (forall₂_of_mapM_eq_ok hmessages) ?_)
    (gives_enums rfl (fun index => [5, Int32.ofNat index]) file.enums)
  exact fun message decl hdecl => Message.gives_toDecl rfl _ _ message.1 hdecl

/-- Each element that is kept has its path in the compiled file, positions of dropped elements counted, and its
declaration has the comments for that path. -/
theorem File.comments_reach_their_declarations (file : File) (decl : FileDecl) (h : file.toDecl = .ok decl) :
    List.Forall₂ (fun place element => file.LeadsTo place.path place.element ∧ place.Gives file.locations element)
      file.places decl.elements :=
  (List.forall₂_and_left _ _).2 ⟨file.leadsTo_places, File.gives_toDecl h⟩

/-- The entry of a map stands in front of the message that is kept, and the oneof made for an optional field in front
of the one that is kept. -/
def notebookMessage : Message where
  name := "Notebook"
  fields :=
    [{ name := "owner", number := 1, type := .scalar .string, oneofIndex := some 0, proto3Optional := true },
     { name := "pages", number := 2, cardinality := .repeated, type := .message,
       typeName := ".Notebook.PagesEntry" },
     { name := "shelf", number := 3, type := .scalar .string, oneofIndex := some 1 }]
  messages :=
    [{ name := "PagesEntry", mapEntry := true
       fields :=
        [{ name := "key", number := 1, type := .scalar .string },
         { name := "value", number := 2, type := .message, typeName := ".Notebook.Page" }] },
     { name := "Page", fields := [{ name := "text", number := 1, type := .scalar .string }] }]
  enums := [{ name := "Ruling", values := [{ name := "PLAIN" }] }]
  oneofs := ["_owner", "place"]

/-- A file in which comments are blank, are given twice, or are given for what is dropped. -/
def notebookFile : File where
  name := "notebook.proto"
  dialect := "proto3"
  messages := [notebookMessage]
  enums := [{ name := "Size" }]
  locations :=
    [{ path := [4, 0], leading := some " A notebook.\n" },
     { path := [4, 0, 2, 0], leading := some " Old.\n", trailing := some " Old.\n" },
     { path := [4, 0, 2, 0], leading := some " Who.\n\n", trailing := some " \n" },
     { path := [4, 0, 2, 0], leading := some "\t\r\n" },
     { path := [4, 0, 2, 1], trailing := some " By title.\n" },
     { path := [4, 0, 3, 0], leading := some " An entry.\n" },
     { path := [4, 0, 3, 1], leading := some " A page.\n" },
     { path := [4, 0, 3, 1, 2, 0], leading := some " Its text.\n   More.\n" },
     { path := [4, 0, 4, 0, 2, 0], leading := some " No lines.\n" },
     { path := [4, 0, 8, 0], leading := some " Made up.\n" },
     { path := [4, 0, 8, 1], leading := some " Where.\n" },
     { path := [5, 0], leading := some " Large?\n" }]

theorem File.comments_reach_their_declarations_notebook : ∃ decl, notebookFile.toDecl = .ok decl ∧
    List.Forall₂
      (fun place element =>
        notebookFile.LeadsTo place.path place.element ∧ place.Gives notebookFile.locations element)
      notebookFile.places decl.elements := by
  have hok : notebookFile.toDecl.toOption.isSome = true := by decide +kernel
  cases hdecl : notebookFile.toDecl with
  | error e =>
    rw [hdecl] at hok
    cases hok
  | ok decl => exact ⟨decl, rfl, notebookFile.comments_reach_their_declarations decl hdecl⟩

example : notebookFile.toDecl.toOption.map (fun decl => decl.elements.map (·.leading)) =
    some [some "A notebook.", some "Who.", none, none, some "Where.", none, some "No lines.",
      some "A page.", some "Its text.\n  More.", some "Large?"] := by
  decide +kernel

end Compiled

end ProtoClass
