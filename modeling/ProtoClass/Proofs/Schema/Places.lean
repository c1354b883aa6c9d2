import Mathlib.Data.List.Basic
import ProtoClass.Proofs.Schema.Catalog

/-!
# The places of declarations in a schema

A declaration stands at a place: the position of its file, its position in the file or the position of the message
around it, and so on inwards.  Places are compared position by position, and what is around a declaration comes before
it.

* Each place holds at most one declaration (`Schema.declaredAt?`), and the names on the way to it make its identity
  (`Occurrence.identity`).
* The declarations of a schema, as the catalogue goes through them, are those at all places in the order of the places
  (`Schema.exists_preorder`).
-/

namespace ProtoClass

namespace DeclaredItem

def name : DeclaredItem → String
  | message decl => decl.name
  | enum decl => decl.name

/-- What is declared directly inside: messages come before enums. -/
def children : DeclaredItem → List DeclaredItem
  | message decl => decl.messages.map .message ++ decl.enums.map .enum
  | enum _ => []

end DeclaredItem

/-- A declaration with the names that lead to it. -/
structure Standing where
  path : List String
  item : DeclaredItem

/-- The same declaration, seen from outside of a declaration around it. -/
def Standing.inside (outer : DeclaredItem) (standing : Standing) : Standing :=
  ⟨outer.name :: standing.path, standing.item⟩

/-- What stands at a place among `items` or inside them. -/
def itemAt? (items : List DeclaredItem) : List Nat → Option Standing
  | [] => none
  | [i] => items[i]?.map fun item => ⟨[item.name], item⟩
  | i :: j :: place => items[i]?.bind fun outer => (itemAt? outer.children (j :: place)).map (.inside outer)

def FileDecl.items (file : FileDecl) : List DeclaredItem :=
  file.messages.map .message ++ file.enums.map .enum

/-- A declaration of a schema, with its file and the names that lead to it. -/
structure Occurrence where
  file : FileDecl
  fileIndex : Nat
  path : List String
  item : DeclaredItem

/-- The package without a leading dot and the names, with dots between them.  What is empty in front does not count. -/
def Occurrence.identity (occurrence : Occurrence) : Identity :=
  ⟨Text.joinWith "."
    (((Identity.ofName (occurrence.file.package.getD "")).name :: occurrence.path).dropWhile (·.isEmpty))⟩

def Occurrence.declaration (occurrence : Occurrence) : Declaration :=
  ⟨occurrence.identity, occurrence.path, occurrence.item⟩

/-- What a schema declares at a place. -/
def Schema.declaredAt? (schema : Schema) : List Nat → Option Occurrence
  | [] => none
  | index :: place => schema.files[index]?.bind fun file =>
      (itemAt? file.items place).map fun standing => ⟨file, index, standing.path, standing.item⟩

/-- `found` holds all that a schema declares, with the places and in their order. -/
structure Schema.Lists (schema : Schema) (found : List (List Nat × Occurrence)) : Prop where
  sorted : found.Pairwise fun a b => a.1 < b.1
  mem_iff : ∀ place occurrence, (place, occurrence) ∈ found ↔ schema.declaredAt? place = some occurrence

/-! ### Identities -/

/-- Going inwards from a scope, name by name, is to put the names behind it. -/
theorem foldl_child (scope : Identity) (path : List String) :
    path.foldl Identity.child scope = ⟨Text.joinWith "." ((scope.name :: path).dropWhile (·.isEmpty))⟩ := by
  induction path generalizing scope with
  | nil =>
    obtain ⟨name⟩ := scope
    by_cases hname : name = ""
    · subst hname
      rfl
    · simp [hname, Text.joinWith]
  | cons name rest ih =>
    rw [List.foldl_cons, ih, Identity.child]
    by_cases hscope : scope.name = ""
    · simp [hscope]
    · have hempty : scope.name.isEmpty = false := by simpa using hscope
      have hlong : (scope.name ++ "." ++ name).isEmpty = false := by simp [hscope]
      simp only [hempty, hlong, List.dropWhile_cons, Bool.false_eq_true, if_false, Identity.mk.injEq]
      cases rest <;> simp [Text.joinWith, String.append_assoc]

/-! ### Places in order -/

/-- `found` holds all that stands among the items and inside them, with the places and in their order. -/
structure Enumerates (items : List DeclaredItem) (found : List (List Nat × Standing)) : Prop where
  sorted : found.Pairwise fun a b => a.1 < b.1
  mem_iff : ∀ place standing, (place, standing) ∈ found ↔ itemAt? items place = some standing

theorem lt_length_of_itemAt? {items : List DeclaredItem} {i : Nat} {place : List Nat} {standing : Standing}
    (h : itemAt? items (i :: place) = some standing) : i < items.length := by
  cases place with
  | nil =>
    obtain ⟨item, hitem, _⟩ := Option.map_eq_some_iff.1 h
    exact (List.getElem?_eq_some_iff.1 hitem).1
  | cons j place =>
    obtain ⟨outer, houter, _⟩ := Option.bind_eq_some_iff.1 h
    exact (List.getElem?_eq_some_iff.1 houter).1

theorem itemAt?_append_left {items others : List DeclaredItem} {i : Nat} (h : i < items.length) (place : List Nat) :
    itemAt? (items ++ others) (i :: place) = itemAt? items (i :: place) := by
  cases place <;> simp only [itemAt?, List.getElem?_append_left h]

theorem itemAt?_append_right (items others : List DeclaredItem) (i : Nat) (place : List Nat) :
    itemAt? (items ++ others) ((i + items.length) :: place) = itemAt? others (i :: place) := by
  have hitem : (items ++ others)[i + items.length]? = others[i]? := by
    rw [List.getElem?_append_right (Nat.le_add_left _ _), Nat.add_sub_cancel]
  cases place <;> simp only [itemAt?, hitem]

namespace Enumerates

variable {items others : List DeclaredItem} {found found' : List (List Nat × Standing)}

theorem nil : Enumerates [] [] where
  sorted := List.Pairwise.nil
  mem_iff place standing := by
    rcases place with _ | ⟨i, _ | ⟨j, place⟩⟩ <;> simp [itemAt?]

theorem exists_cons (h : Enumerates items found) {s : List Nat × Standing} (hmem : s ∈ found) :
    ∃ i rest, s.1 = i :: rest ∧ i < items.length := by
  obtain ⟨place, standing⟩ := s
  have hitem := (h.mem_iff place standing).1 hmem
  cases place with
  | nil => cases hitem
  | cons i rest => exact ⟨i, rest, rfl, lt_length_of_itemAt? hitem⟩

/-- What comes after some items stands further on by their number. -/
theorem append (h : Enumerates items found) (h' : Enumerates others found') :
    Enumerates (items ++ others)
      (found ++ found'.map fun s => (s.1.modifyHead (· + items.length), s.2)) where
  sorted := by
    refine List.pairwise_append.2 ⟨h.sorted, List.pairwise_map.2 ?_, ?_⟩
    · refine h'.sorted.imp_of_mem fun {a b} ha hb hlt => ?_
      obtain ⟨i, rest, hi, _⟩ := h'.exists_cons ha
      obtain ⟨j, rest', hj, _⟩ := h'.exists_cons hb
      rw [hi, hj, List.cons_lt_cons_iff] at hlt
      rw [hi, hj, List.modifyHead_cons, List.modifyHead_cons, List.cons_lt_cons_iff]
      rcases hlt with hlt | ⟨rfl, hlt⟩
      · exact Or.inl (Nat.add_lt_add_right hlt _)
      · exact Or.inr ⟨rfl, hlt⟩
    · intro a ha b hb
      obtain ⟨s, hs, rfl⟩ := List.mem_map.1 hb
      obtain ⟨i, rest, hi, hlt⟩ := h.exists_cons ha
      obtain ⟨j, rest', hj, _⟩ := h'.exists_cons hs
      rw [hi, hj, List.modifyHead_cons, List.cons_lt_cons_iff]
      omega
  mem_iff place standing := by
    rw [List.mem_append, List.mem_map]
    constructor
    · rintro (hmem | ⟨s, hs, heq⟩)
      · obtain ⟨i, rest, hi, hlt⟩ := h.exists_cons hmem
        cases hi
        rw [itemAt?_append_left hlt]
        exact (h.mem_iff _ _).1 hmem
      · cases heq
        obtain ⟨j, rest, hj, _⟩ := h'.exists_cons hs
        rw [hj, List.modifyHead_cons, itemAt?_append_right, ← hj]
        exact (h'.mem_iff _ _).1 hs
    · intro hitem
      cases place with
      | nil => cases hitem
      | cons i rest =>
        by_cases hlt : i < items.length
        · rw [itemAt?_append_left hlt] at hitem
          exact Or.inl ((h.mem_iff _ _).2 hitem)
        · obtain ⟨j, rfl⟩ : ∃ j, i = j + items.length := ⟨i - items.length, by omega⟩
          rw [itemAt?_append_right] at hitem
          exact Or.inr ⟨(j :: rest, standing), (h'.mem_iff _ _).2 hitem, rfl⟩

/-- A declaration stands before what is inside it. -/
theorem outer {outer : DeclaredItem} (h : Enumerates outer.children found) :
    Enumerates [outer] (([0], ⟨[outer.name], outer⟩) :: found.map fun s => (0 :: s.1, s.2.inside outer)) where
  sorted := by
    refine List.pairwise_cons.2 ⟨?_, List.pairwise_map.2 ?_⟩
    · intro b hb
      obtain ⟨s, hs, rfl⟩ := List.mem_map.1 hb
      obtain ⟨i, rest, hi, _⟩ := h.exists_cons hs
      rw [hi, List.cons_lt_cons_iff]
      exact Or.inr ⟨rfl, List.nil_lt_cons _ _⟩
    · refine h.sorted.imp fun hlt => ?_
      rw [List.cons_lt_cons_iff]
      exact Or.inr ⟨rfl, hlt⟩
  mem_iff place standing := by
    rw [List.mem_cons, List.mem_map]
    constructor
    · rintro (heq | ⟨s, hs, heq⟩)
      · cases heq
        rfl
      · cases heq
        obtain ⟨i, rest, hi, _⟩ := h.exists_cons hs
        have hitem := (h.mem_iff _ _).1 hs
        rw [hi] at hitem ⊢
        show (itemAt? outer.children (i :: rest)).map (Standing.inside outer) = _
        rw [hitem, Option.map_some]
    · intro hitem
      rcases place with _ | ⟨i, place⟩
      · cases hitem
      obtain rfl : i = 0 := by simpa using lt_length_of_itemAt? hitem
      rcases place with _ | ⟨j, place⟩
      · cases hitem
        exact Or.inl rfl
      · have hinside : (itemAt? outer.children (j :: place)).map (.inside outer) = some standing := hitem
        obtain ⟨s, hs, rfl⟩ := Option.map_eq_some_iff.1 hinside
        exact Or.inr ⟨(j :: place, s), (h.mem_iff _ _).2 hs, rfl⟩

end Enumerates

/-! ### Declarations in order of their places -/

/-- The declaration that stands somewhere inside a scope. -/
def Standing.declaration (scope : Identity) (outer : List String) (standing : Standing) : Declaration :=
  ⟨standing.path.foldl Identity.child scope, outer ++ standing.path, standing.item⟩

/-- The declarations are all that stands among the items and inside them, in order, whatever is around the items. -/
def IsPreorder (items : List DeclaredItem) (decls : Identity → List String → List Declaration) : Prop :=
  ∃ found, Enumerates items found ∧ ∀ scope outer, decls scope outer = found.map fun s => s.2.declaration scope outer

namespace IsPreorder

variable {items others : List DeclaredItem} {decls decls' : Identity → List String → List Declaration}

theorem nil : IsPreorder [] fun _ _ => [] :=
  ⟨[], Enumerates.nil, fun _ _ => rfl⟩

theorem append (h : IsPreorder items decls) (h' : IsPreorder others decls') :
    IsPreorder (items ++ others) fun scope outer => decls scope outer ++ decls' scope outer := by
  obtain ⟨found, hfound, hdecls⟩ := h
  obtain ⟨found', hfound', hdecls'⟩ := h'
  refine ⟨_, hfound.append hfound', fun scope outer => ?_⟩
  dsimp only
  rw [hdecls, hdecls', List.map_append, List.map_map]
  rfl

theorem outer (item : DeclaredItem) (h : IsPreorder item.children decls) :
    IsPreorder [item] fun scope outer =>
      ⟨scope.child item.name, outer ++ [item.name], item⟩ :: decls (scope.child item.name) (outer ++ [item.name]) := by
  obtain ⟨found, hfound, hdecls⟩ := h
  refine ⟨_, hfound.outer, fun scope outer => ?_⟩
  dsimp only
  rw [hdecls, List.map_cons, List.map_map]
  congr 1
  refine List.map_congr_left fun s _ => ?_
  simp only [Function.comp_apply, Standing.declaration, Standing.inside, List.foldl_cons, List.append_assoc,
    List.singleton_append]

theorem enums (enums : List EnumDecl) :
    IsPreorder (enums.map .enum) fun scope outer =>
      enums.map fun enum => ⟨scope.child enum.name, outer ++ [enum.name], .enum enum⟩ := by
  induction enums with
  | nil => exact nil
  | cons enum rest ih =>
    exact (outer (.enum enum) nil).append ih

end IsPreorder

mutual

theorem MessageDecl.isPreorder_declarations : ∀ decl : MessageDecl,
    IsPreorder [.message decl] fun scope outer => decl.declarations scope outer
  | ⟨name, fields, oneofs, messages, enums, comment, trailingComment, deprecated⟩ =>
    IsPreorder.outer (.message ⟨name, fields, oneofs, messages, enums, comment, trailingComment, deprecated⟩)
      ((MessageDecl.isPreorder_listDeclarations messages).append (IsPreorder.enums enums))

theorem MessageDecl.isPreorder_listDeclarations : ∀ messages : List MessageDecl,
    IsPreorder (messages.map .message) fun scope outer => MessageDecl.listDeclarations scope outer messages
  | [] => IsPreorder.nil
  | message :: rest =>
    (MessageDecl.isPreorder_declarations message).append (MessageDecl.isPreorder_listDeclarations rest)

end

theorem FileDecl.exists_preorder (file : FileDecl) (index : Nat) :
    ∃ found, Enumerates file.items found ∧
      file.declarations = found.map fun s => (⟨file, index, s.2.path, s.2.item⟩ : Occurrence).declaration := by
  obtain ⟨found, hfound, hdecls⟩ :=
    (MessageDecl.isPreorder_listDeclarations file.messages).append (IsPreorder.enums file.enums)
  refine ⟨found, hfound, (hdecls (Identity.ofName (file.package.getD "")) []).trans ?_⟩
  refine List.map_congr_left fun s _ => ?_
  rw [Standing.declaration, foldl_child]
  rfl

/-- The declarations of a schema are those at all of its places, in the order of the places. -/
theorem Schema.exists_preorder (schema : Schema) :
    ∃ found, schema.Lists found ∧
      (schema.files.zipIdx.flatMap fun item => item.1.declarations.map fun d => (item, d)) =
        found.map fun s => ((s.2.file, s.2.fileIndex), s.2.declaration) := by
  choose found hfound hdecls using FileDecl.exists_preorder
  refine ⟨schema.files.zipIdx.flatMap fun item => (found item.1 item.2).map fun s =>
    (item.2 :: s.1, ⟨item.1, item.2, s.2.path, s.2.item⟩), ⟨?_, fun place occurrence => ?_⟩, ?_⟩
  · refine List.pairwise_flatMap.2 ⟨fun item _ => List.pairwise_map.2 ?_, (zipIdx_pairwise schema.files).imp ?_⟩
    · refine (hfound item.1 item.2).sorted.imp fun hlt => ?_
      rw [List.cons_lt_cons_iff]
      exact Or.inr ⟨rfl, hlt⟩
    · intro item other hlt a ha b hb
      obtain ⟨s, _, rfl⟩ := List.mem_map.1 ha
      obtain ⟨s', _, rfl⟩ := List.mem_map.1 hb
      rw [List.cons_lt_cons_iff]
      exact Or.inl hlt
  · simp only [List.mem_flatMap, List.mem_map]
    constructor
    · rintro ⟨item, hitem, s, hs, heq⟩
      cases heq
      have hfile : schema.files[item.2]? = some item.1 := List.mk_mem_zipIdx_iff_getElem?.1 hitem
      have hstanding := ((hfound item.1 item.2).mem_iff s.1 s.2).1 hs
      rw [declaredAt?, hfile, Option.bind_some, hstanding, Option.map_some]
    · intro hdeclared
      cases place with
      | nil => cases hdeclared
      | cons index place =>
        obtain ⟨file, hfile, hmap⟩ := Option.bind_eq_some_iff.1 hdeclared
        obtain ⟨standing, hstanding, rfl⟩ := Option.map_eq_some_iff.1 hmap
        exact ⟨(file, index), List.mk_mem_zipIdx_iff_getElem?.2 hfile, (place, standing),
          ((hfound file index).mem_iff place standing).2 hstanding, rfl⟩
  · rw [List.map_flatMap]
    refine List.flatMap_congr fun item _ => ?_
    rw [hdecls item.1 item.2, List.map_map, List.map_map]
    rfl

end ProtoClass
