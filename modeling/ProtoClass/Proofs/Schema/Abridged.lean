import Mathlib.Data.List.Forall2
import ProtoClass.Schema.Format

/-!
# Documents that leave out what goes without saying

A schema document may leave out members that have their default value.  `Json.Abridges` relates a document to the same
document with some of these left out, here and there and at any depth.

* Where a record is read, each of its slots is filled with an abridged form of the value, or empty if the value is the
  default (`slotsOf_abridges`).
* From such a slot one reads what is read from the value (`Fills.required`, `Fills.defaulted`, `Fills.optional`).
-/

namespace ProtoClass

/-- If every element gives a result, the list gives all of them. -/
theorem exists_mapM_eq_some {α β : Type} {f : α → Option β} {R : α → β → Prop} {l : List α}
    (h : ∀ a ∈ l, ∃ b, f a = some b ∧ R a b) : ∃ bs, l.mapM f = some bs ∧ List.Forall₂ R l bs := by
  induction l with
  | nil => exact ⟨[], rfl, List.Forall₂.nil⟩
  | cons a rest ih =>
    obtain ⟨b, hb, hR⟩ := h a List.mem_cons_self
    obtain ⟨bs, hbs, hRs⟩ := ih fun a' ha' => h a' (List.mem_cons_of_mem _ ha')
    refine ⟨b :: bs, ?_, List.Forall₂.cons hR hRs⟩
    rw [List.mapM_cons, hb, hbs]
    rfl

theorem mapM_eq_some_of_forall₂ {α β : Type} {f : β → Option α} {as : List α} {bs : List β}
    (h : List.Forall₂ (fun a b => f b = some a) as bs) : bs.mapM f = some as := by
  induction h with
  | nil => rfl
  | cons hab _ ih =>
    rw [List.mapM_cons, hab, ih]
    rfl

namespace Json

/-! ### Levels -/

mutual

/-- How many lists and objects are open at once inside a value. -/
def levels : Json → Nat
  | .arr elements => levelsOfAll elements + 1
  | .obj members => levelsOfMembers members + 1
  | _ => 0

def levelsOfAll : List Json → Nat
  | [] => 0
  | value :: rest => max (levels value) (levelsOfAll rest)

def levelsOfMembers : List (String × Json) → Nat
  | [] => 0
  | (_, value) :: rest => max (levels value) (levelsOfMembers rest)

end

theorem levels_le_levelsOfAll {value : Json} {elements : List Json} (h : value ∈ elements) :
    value.levels ≤ levelsOfAll elements := by
  induction elements with
  | nil => cases h
  | cons first rest ih =>
    rw [levelsOfAll]
    rcases List.mem_cons.1 h with rfl | h
    · exact Nat.le_max_left _ _
    · exact Nat.le_trans (ih h) (Nat.le_max_right _ _)

theorem levelsOfMembers_eq (members : List (String × Json)) :
    levelsOfMembers members = levelsOfAll (members.map Prod.snd) := by
  induction members with
  | nil => rfl
  | cons first rest ih => rw [levelsOfMembers, List.map_cons, levelsOfAll, ih]

/-! ### Leaving out members -/

/-- The value that a member of a schema document has if it is left out.  No key has different ones in two places, and
the keys that are not here must be there. -/
def defaultOf? : String → Option Json
  | "label" => some (.str "singular")
  | "syntax" => some (.str "proto3")
  | "messages" | "enums" | "fields" | "oneofs" | "nested-messages" | "nested-enums" => some (.arr [])
  | "package" | "oneof" | "jstype" | "json-name" | "comment" | "trailing-comment" => some .null
  | "proto3-optional" | "deprecated" => some (.bool false)
  | _ => none

/-- The members of an object, with values that are abridged in turn, less some that have their default. -/
inductive LeavesOut (R : Json → Json → Prop) : List (String × Json) → List (String × Json) → Prop
  | nil : LeavesOut R [] []
  | keep {key : String} {value short : Json} {members others : List (String × Json)} (h : R value short)
      (hrest : LeavesOut R members others) : LeavesOut R ((key, value) :: members) ((key, short) :: others)
  | leave {key : String} {value : Json} {members others : List (String × Json)} (h : defaultOf? key = some value)
      (hrest : LeavesOut R members others) : LeavesOut R ((key, value) :: members) others

/-- The second document is the first one less some members that have their default. -/
inductive Abridges : Json → Json → Prop
  | same (value : Json) : Abridges value value
  | arr {elements others : List Json} (h : List.Forall₂ Abridges elements others) :
      Abridges (.arr elements) (.arr others)
  | obj {members others : List (String × Json)} (h : LeavesOut Abridges members others) :
      Abridges (.obj members) (.obj others)

namespace Abridges

variable {value short : Json} {elements : List Json} {members : List (String × Json)}

/-- Only lists and objects can be abridged. -/
theorem eq_of_levels (h : Abridges value short) (hvalue : value.levels = 0) : short = value := by
  cases h with
  | same => rfl
  | arr => simp [levels] at hvalue
  | obj => simp [levels] at hvalue

theorem exists_arr (h : Abridges (.arr elements) short) :
    ∃ others, short = .arr others ∧ List.Forall₂ Abridges elements others := by
  cases h with
  | same => exact ⟨elements, rfl, List.forall₂_same.2 fun value _ => same value⟩
  | arr h => exact ⟨_, rfl, h⟩

theorem exists_obj (h : Abridges (.obj members) short) :
    ∃ others, short = .obj others ∧ LeavesOut Abridges members others := by
  cases h with
  | same =>
    refine ⟨members, rfl, ?_⟩
    induction members with
    | nil => exact .nil
    | cons member rest ih => exact .keep (same member.2) ih
  | obj h => exact ⟨_, rfl, h⟩

end Abridges

/-! ### Records -/

section Slots

variable {R : Json → Json → Prop} {members others : List (String × Json)}

theorem LeavesOut.keys_subset (h : LeavesOut R members others) : others.map Prod.fst ⊆ members.map Prod.fst := by
  induction h with
  | nil => exact List.Subset.refl _
  | keep _ _ ih => exact List.cons_subset_cons _ ih
  | leave _ _ ih => exact List.Subset.trans ih (List.subset_cons_self _ _)

private theorem filter_eq_nil_of_not_mem {key : String} (h : key ∉ members.map Prod.fst) :
    members.filter (·.1 == key) = [] := by
  rw [List.filter_eq_nil_iff]
  intro member hmember hkey
  exact h (List.mem_map.2 ⟨member, hmember, by simpa using hkey⟩)

/-- Under a key there is an abridged value, or nothing if the value is the default. -/
theorem LeavesOut.filter_key (h : LeavesOut R members others) (hkeys : (members.map Prod.fst).Nodup)
    {member : String × Json} (hmember : member ∈ members) :
    (∃ short, others.filter (·.1 == member.1) = [(member.1, short)] ∧ R member.2 short) ∨
      others.filter (·.1 == member.1) = [] ∧ defaultOf? member.1 = some member.2 := by
  induction h with
  | nil => cases hmember
  | keep h hrest ih =>
    obtain ⟨hfirst, hnodup⟩ := List.nodup_cons.1 hkeys
    rcases List.mem_cons.1 hmember with rfl | hmember
    · rw [List.filter_cons_of_pos (by simp), filter_eq_nil_of_not_mem fun hmem => hfirst (hrest.keys_subset hmem)]
      exact Or.inl ⟨_, rfl, h⟩
    · have hkey := List.mem_map_of_mem (f := Prod.fst) hmember
      rw [List.filter_cons_of_neg]
      · exact ih hnodup hmember
      · intro heq
        exact hfirst (eq_of_beq heq ▸ hkey)
  | leave h hrest ih =>
    obtain ⟨hfirst, hnodup⟩ := List.nodup_cons.1 hkeys
    rcases List.mem_cons.1 hmember with rfl | hmember
    · exact Or.inr ⟨filter_eq_nil_of_not_mem fun hmem => hfirst (hrest.keys_subset hmem), h⟩
    · exact ih hnodup hmember

/-- What is given for a member: an abridged form of its value, or nothing if the value is the default. -/
def Fills (depth : Nat) (member : String × Json) (slot : Option Json) : Prop :=
  (∃ short, slot = some short ∧ Abridges member.2 short ∧ short.levels ≤ depth) ∨
    slot = none ∧ defaultOf? member.1 = some member.2

/-- An abridged record has a slot for each of its members. -/
theorem slots_leavesOut {depth : Nat} (h : LeavesOut Abridges members others)
    (hkeys : (members.map Prod.fst).Nodup) (hdepth : levelsOfMembers others ≤ depth) :
    ∃ slots, (Record.named others).slots (members.map Prod.fst) = some slots ∧
      List.Forall₂ (Fills depth) members slots := by
  simp only [Record.slots, List.mapM_map]
  apply exists_mapM_eq_some
  intro member hmember
  rcases h.filter_key hkeys hmember with ⟨short, hfilter, hshort⟩ | ⟨hfilter, hdefault⟩
  · have hmem : (member.1, short) ∈ others := List.mem_of_mem_filter (hfilter ▸ List.mem_singleton_self _)
    rw [levelsOfMembers_eq] at hdepth
    have hlevels := levels_le_levelsOfAll (List.mem_map_of_mem (f := Prod.snd) hmem)
    refine ⟨some short, ?_, Or.inl ⟨short, rfl, hshort, Nat.le_trans hlevels hdepth⟩⟩
    simp only [Function.comp_apply, hfilter]
  · refine ⟨none, ?_, Or.inr ⟨rfl, hdefault⟩⟩
    simp only [Function.comp_apply, hfilter]

theorem slotsOf_abridges {short : Json} {depth : Nat} (h : Abridges (.obj members) short)
    (hkeys : (members.map Prod.fst).Nodup) (hdepth : short.levels ≤ depth) :
    ∃ inner slots, depth = inner + 1 ∧ Json.format.slotsOf (members.map Prod.fst) short = some slots ∧
      List.Forall₂ (Fills inner) members slots := by
  obtain ⟨others, rfl, hothers⟩ := h.exists_obj
  rw [levels] at hdepth
  obtain ⟨inner, rfl⟩ : ∃ inner, depth = inner + 1 := Nat.exists_eq_add_one.2 (by omega)
  obtain ⟨slots, hslots, hfills⟩ := slots_leavesOut hothers hkeys (Nat.le_of_succ_le_succ hdepth)
  exact ⟨inner, slots, rfl, hslots, hfills⟩

/-- A tag stays, over an abridged value. -/
theorem Abridges.exists_tag {key : String} {value short : Json} {depth : Nat} (h : Abridges (.obj [(key, value)]) short)
    (hkey : defaultOf? key = none) (hdepth : short.levels ≤ depth) :
    ∃ inner body, depth = inner + 1 ∧ short = .obj [(key, body)] ∧ Abridges value body ∧ body.levels ≤ inner := by
  obtain ⟨others, rfl, hothers⟩ := h.exists_obj
  cases hothers with
  | keep hbody hrest =>
    cases hrest
    simp only [levels, levelsOfMembers, Nat.max_zero] at hdepth
    obtain ⟨inner, rfl⟩ : ∃ inner, depth = inner + 1 := Nat.exists_eq_add_one.2 (by omega)
    exact ⟨inner, _, rfl, rfl, hbody, Nat.le_of_succ_le_succ hdepth⟩
  | leave hdefault =>
    rw [hkey] at hdefault
    cases hdefault

end Slots

/-! ### Readers -/

section Readers

variable {α : Type} {read : Nat → Json → Option α} {value : Json} {a : α}

/-- From every abridged form of the value one reads `a`, given the levels to go down. -/
def Recovers (read : Nat → Json → Option α) (value : Json) (a : α) : Prop :=
  ∀ short depth, Abridges value short → short.levels ≤ depth → read depth short = some a

theorem recovers_of_levels (hvalue : value.levels = 0) (h : ∀ depth, read depth value = some a) :
    Recovers read value a := by
  intro short depth hshort _
  rw [hshort.eq_of_levels hvalue]
  exact h depth

theorem recovers_text (text : String) : Recovers (fun _ => Json.format.text?) (.str text) text :=
  recovers_of_levels rfl fun _ => rfl

theorem recovers_flag (flag : Bool) : Recovers (fun _ => Json.format.flag?) (.bool flag) flag :=
  recovers_of_levels rfl fun _ => rfl

theorem recovers_uint32 (n : UInt32) : Recovers (fun _ => Json.format.uint32?) (.int n.toNat) n := by
  refine recovers_of_levels rfl fun _ => ?_
  have hnatural : Json.format.natural? (.int n.toNat) = some n.toNat := by
    simp [Json.format]
  rw [Format.uint32?, hnatural, Option.bind_some, if_pos n.toNat_lt_size, UInt32.ofNat_toNat]

theorem recovers_int32 (n : Int32) : Recovers (fun _ => Json.format.int32?) (.int n.toInt) n := by
  refine recovers_of_levels rfl fun _ => ?_
  have hinteger : Json.format.integer? (.int n.toInt) = some n.toInt := rfl
  rw [Format.int32?, hinteger, Option.bind_some, if_pos, Int32.ofInt_toInt]
  simp only [n.minValue_le_toInt, n.toInt_le, decide_true, Bool.and_self]

/-- A list is read element by element. -/
theorem recovers_listOf {values : List Json} {as : List α} (h : List.Forall₂ (Recovers read) values as) :
    Recovers (Json.format.listOf read) (.arr values) as := by
  intro short depth hshort hdepth
  obtain ⟨others, rfl, hothers⟩ := hshort.exists_arr
  rw [levels] at hdepth
  obtain ⟨inner, rfl⟩ : ∃ inner, depth = inner + 1 := Nat.exists_eq_add_one.2 (by omega)
  have hlevels : ∀ other ∈ others, other.levels ≤ inner := fun other hother =>
    Nat.le_trans (levels_le_levelsOfAll hother) (Nat.le_of_succ_le_succ hdepth)
  show others.mapM (read inner) = some as
  apply mapM_eq_some_of_forall₂
  clear hdepth hshort
  induction h generalizing others with
  | nil =>
    cases hothers
    exact .nil
  | cons hread _ ih =>
    cases hothers with
    | cons hother hrest =>
      exact .cons (hread _ _ hother (hlevels _ List.mem_cons_self))
        (ih _ hrest fun other hmem => hlevels other (List.mem_cons_of_mem _ hmem))

namespace Fills

variable {depth : Nat} {key : String} {slot : Option Json}

theorem exists_of_mandatory (h : Fills depth (key, value) slot) (hkey : defaultOf? key = none) :
    ∃ short, slot = some short ∧ Abridges value short ∧ short.levels ≤ depth := by
  rcases h with h | ⟨-, hdefault⟩
  · exact h
  · rw [hkey] at hdefault
    cases hdefault

theorem required (h : Fills depth (key, value) slot) (hread : Recovers read value a)
    (hkey : defaultOf? key = none) : Format.required (read depth) slot = some a := by
  obtain ⟨short, rfl, hshort, hlevels⟩ := h.exists_of_mandatory hkey
  exact hread short depth hshort hlevels

theorem defaulted {standard : α} (h : Fills depth (key, value) slot) (hread : Recovers read value a)
    (hkey : defaultOf? key = some value → a = standard) :
    Format.defaulted standard (read depth) slot = some a := by
  rcases h with ⟨short, rfl, hshort, hlevels⟩ | ⟨rfl, hdefault⟩
  · exact hread short depth hshort hlevels
  · rw [hkey hdefault]
    rfl

theorem flag {flag : Bool} (h : Fills depth (key, .bool flag) slot) (hkey : defaultOf? key = some (.bool false)) :
    Format.defaulted false Json.format.flag? slot = some flag := by
  refine h.defaulted (recovers_flag flag) fun hdefault => ?_
  rw [hkey] at hdefault
  cases hdefault
  rfl

theorem list {values : List Json} {as : List α} (h : Fills depth (key, .arr values) slot)
    (hread : List.Forall₂ (Recovers read) values as) (hkey : defaultOf? key = some (.arr [])) :
    Format.defaulted [] (Json.format.listOf read depth) slot = some as := by
  refine h.defaulted (recovers_listOf hread) fun hdefault => ?_
  rw [hkey] at hdefault
  cases hdefault
  cases hread
  rfl

/-- What is optional may be left out and may be `null`. -/
theorem optional {encode : α → String} {given : Option α}
    (h : Fills depth (key, .optional (fun a => .str (encode a)) given) slot)
    (hread : ∀ a, Recovers read (.str (encode a)) a) (hkey : defaultOf? key = some .null) :
    Json.format.optional (read depth) slot = some given := by
  cases given with
  | none =>
    rcases h with ⟨short, rfl, hshort, -⟩ | ⟨rfl, -⟩
    · rw [hshort.eq_of_levels rfl]
      rfl
    · rfl
  | some a =>
    rcases h with ⟨short, rfl, hshort, hlevels⟩ | ⟨-, hdefault⟩
    · obtain rfl : short = .str (encode a) := hshort.eq_of_levels rfl
      show (read depth (.str (encode a))).map some = _
      rw [hread a _ depth hshort hlevels]
      rfl
    · rw [hkey] at hdefault
      cases hdefault

theorem text {given : Option String} (h : Fills depth (key, .optional .str given) slot)
    (hkey : defaultOf? key = some .null) : Json.format.optional Json.format.text? slot = some given :=
  h.optional recovers_text hkey

end Fills

end Readers

end Json

end ProtoClass
