import Mathlib.Data.String.Basic
import ProtoClass.Symbol.Table

/-!
# Lists of import specifiers

`insertSorted` and `addSpecifier` keep lists in order and without repetitions, and add exactly what they are given
(`holds_addSpecifier`, `ImportsInOrder.addSpecifier`).
-/

namespace ProtoClass

/-- An import list has a specifier among those from `origin`. -/
def Holds (imports : List (String × List String)) (origin specifier : String) : Prop :=
  ∃ specifiers, (origin, specifiers) ∈ imports ∧ specifier ∈ specifiers

/-- The files of an import list are in order, each with its specifiers in order, of which there is one at least. -/
structure ImportsInOrder (imports : List (String × List String)) : Prop where
  origins : (imports.map (·.1)).Pairwise (· < ·)
  specifiers : ∀ entry ∈ imports, entry.2 ≠ [] ∧ entry.2.Pairwise (· < ·)

private theorem lt_of_not_eq_of_not_lt {a b : String} (hne : a ≠ b) (hlt : ¬ a < b) : b < a :=
  lt_of_le_of_ne (not_lt.1 hlt) (Ne.symm hne)

theorem mem_insertSorted {text x : String} {texts : List String} :
    x ∈ insertSorted text texts ↔ x = text ∨ x ∈ texts := by
  induction texts with
  | nil => simp [insertSorted]
  | cons first rest ih =>
    unfold insertSorted
    split
    · rename_i heq
      simp [heq]
    · split
      · simp
      · simp only [List.mem_cons, ih]
        exact or_left_comm

private theorem insertSorted_ne_nil (text : String) (texts : List String) : insertSorted text texts ≠ [] := by
  intro h
  have : text ∈ insertSorted text texts := mem_insertSorted.2 (Or.inl rfl)
  simp [h] at this

private theorem insertSorted_pairwise {text : String} {texts : List String} (h : texts.Pairwise (· < ·)) :
    (insertSorted text texts).Pairwise (· < ·) := by
  induction texts with
  | nil => simp [insertSorted]
  | cons first rest ih =>
    have hfirst := List.pairwise_cons.1 h
    unfold insertSorted
    split
    · exact h
    · rename_i hne
      split
      · rename_i hlt
        refine List.pairwise_cons.2 ⟨fun x hx => ?_, h⟩
        rcases List.mem_cons.1 hx with rfl | hx
        · exact hlt
        · exact lt_trans hlt (hfirst.1 x hx)
      · rename_i hlt
        refine List.pairwise_cons.2 ⟨fun x hx => ?_, ih hfirst.2⟩
        rcases mem_insertSorted.1 hx with rfl | hx
        · exact lt_of_not_eq_of_not_lt hne hlt
        · exact hfirst.1 x hx

private theorem holds_cons {origin specifier first : String} {specifiers : List String}
    {rest : List (String × List String)} :
    Holds ((first, specifiers) :: rest) origin specifier ↔
      (origin = first ∧ specifier ∈ specifiers) ∨ Holds rest origin specifier := by
  unfold Holds
  constructor
  · rintro ⟨found, hmem, hin⟩
    rcases List.mem_cons.1 hmem with heq | hmem
    · cases heq
      exact Or.inl ⟨rfl, hin⟩
    · exact Or.inr ⟨found, hmem, hin⟩
  · rintro (⟨rfl, hin⟩ | ⟨found, hmem, hin⟩)
    · exact ⟨specifiers, List.mem_cons_self, hin⟩
    · exact ⟨found, List.mem_cons_of_mem _ hmem, hin⟩

/-- Adding a specifier adds this one and no other. -/
theorem holds_addSpecifier {origin specifier o x : String} {imports : List (String × List String)} :
    Holds (addSpecifier origin specifier imports) o x ↔ (o = origin ∧ x = specifier) ∨ Holds imports o x := by
  induction imports with
  | nil => simp [addSpecifier, Holds]
  | cons entry rest ih =>
    obtain ⟨first, specifiers⟩ := entry
    unfold addSpecifier
    split
    · rename_i heq
      subst heq
      simp only [holds_cons, mem_insertSorted]
      tauto
    · split
      · simp [holds_cons]
      · simp only [holds_cons, ih]
        exact or_left_comm

private theorem origins_addSpecifier {origin specifier o : String} {imports : List (String × List String)} :
    o ∈ (addSpecifier origin specifier imports).map (·.1) ↔ o = origin ∨ o ∈ imports.map (·.1) := by
  induction imports with
  | nil => simp [addSpecifier]
  | cons entry rest ih =>
    obtain ⟨first, specifiers⟩ := entry
    unfold addSpecifier
    split
    · rename_i heq
      simp [heq]
    · split
      · simp
      · simp only [List.map_cons, List.mem_cons, ih]
        exact or_left_comm

theorem importsInOrder_nil : ImportsInOrder [] :=
  ⟨List.Pairwise.nil, by simp⟩

/-- Adding a specifier keeps an import list in order. -/
theorem ImportsInOrder.addSpecifier {imports : List (String × List String)} (h : ImportsInOrder imports)
    (origin specifier : String) : ImportsInOrder (ProtoClass.addSpecifier origin specifier imports) := by
  induction imports with
  | nil => exact ⟨by simp [ProtoClass.addSpecifier], by simp [ProtoClass.addSpecifier]⟩
  | cons entry rest ih =>
    obtain ⟨first, specifiers⟩ := entry
    obtain ⟨horigins, hspecifiers⟩ := h
    have hcons := List.pairwise_cons.1 horigins
    have hrest : ImportsInOrder rest :=
      ⟨hcons.2, fun entry hentry => hspecifiers entry (List.mem_cons_of_mem _ hentry)⟩
    have hfirst := hspecifiers (first, specifiers) List.mem_cons_self
    unfold ProtoClass.addSpecifier
    split
    · refine ⟨horigins, fun entry hentry => ?_⟩
      rcases List.mem_cons.1 hentry with rfl | hentry
      · exact ⟨insertSorted_ne_nil _ _, insertSorted_pairwise hfirst.2⟩
      · exact hrest.specifiers entry hentry
    · rename_i hne
      split
      · rename_i hlt
        refine ⟨List.pairwise_cons.2 ⟨fun o ho => ?_, horigins⟩, fun entry hentry => ?_⟩
        · rcases List.mem_cons.1 ho with rfl | ho
          · exact hlt
          · exact lt_trans hlt (hcons.1 o ho)
        · rcases List.mem_cons.1 hentry with rfl | hentry
          · simp
          · exact hspecifiers entry hentry
      · rename_i hlt
        have hadded := ih hrest
        refine ⟨List.pairwise_cons.2 ⟨fun o ho => ?_, hadded.origins⟩, fun entry hentry => ?_⟩
        · rcases origins_addSpecifier.1 ho with rfl | ho
          · exact lt_of_not_eq_of_not_lt hne hlt
          · exact hcons.1 o ho
        · rcases List.mem_cons.1 hentry with rfl | hentry
          · exact hfirst
          · exact hadded.specifiers entry hentry

end ProtoClass
