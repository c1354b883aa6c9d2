import Mathlib.Data.List.DropRight
import Mathlib.Data.List.TakeWhile
import ProtoClass.Proofs.Text.Joining

/-!
# Blank texts

A text is blank if all its characters are.  Cutting off the blank end of a text does not change whether it is blank,
and neither does cutting it into lines (`allBlank_trimEnd`, `allBlank_lines`): all that is lost is blank.
-/

namespace ProtoClass.Text

/-- A text of blank characters. -/
def AllBlank (text : String) : Prop :=
  ∀ c ∈ text.toList, isBlank c = true

instance (text : String) : Decidable (AllBlank text) :=
  List.decidableBAll (isBlank · = true) text.toList

theorem dropEndWhile_eq_rdropWhile {α : Type} (p : α → Bool) (l : List α) : dropEndWhile p l = l.rdropWhile p :=
  rfl

theorem trimEnd_eq_empty {text : String} (h : AllBlank text) : trimEnd text = "" := by
  rw [trimEnd, dropEndWhile_eq_rdropWhile, List.rdropWhile_eq_nil_iff.2 h]

theorem allBlank_trimEnd {text : String} : AllBlank (trimEnd text) ↔ AllBlank text := by
  refine ⟨fun h c hc => ?_, fun h => ?_⟩
  · rw [← List.rdropWhile_append_rtakeWhile (p := isBlank) (l := text.toList)] at hc
    rcases List.mem_append.1 hc with hc | hc
    · exact h c (by simpa only [trimEnd, dropEndWhile_eq_rdropWhile, String.toList_ofList] using hc)
    · exact List.mem_rtakeWhile_imp hc
  · rw [trimEnd_eq_empty h]
    decide

theorem trimLineFeeds_eq_empty {text : String} : trimLineFeeds text = "" ↔ ∀ c ∈ text.toList, c = '\n' := by
  have hfirst : (∀ c ∈ text.toList.dropWhile (· == '\n'), c = '\n') ↔ ∀ c ∈ text.toList, c = '\n' := by
    refine ⟨fun h c hc => ?_, fun h c hc => h c ((List.dropWhile_suffix _).mem hc)⟩
    rw [← List.takeWhile_append_dropWhile (p := (· == '\n')) (l := text.toList)] at hc
    rcases List.mem_append.1 hc with hc | hc
    · simpa using List.mem_takeWhile_imp hc
    · exact h c hc
  rw [trimLineFeeds, dropEndWhile_eq_rdropWhile, String.ofList_eq_empty_iff, List.rdropWhile_eq_nil_iff, ← hfirst]
  simp

theorem forall_mem_joinWith {separator : String} {p : Char → Prop} (hseparator : ∀ c ∈ separator.toList, p c)
    (pieces : List String) :
    (∀ c ∈ (joinWith separator pieces).toList, p c) ↔ ∀ piece ∈ pieces, ∀ c ∈ piece.toList, p c := by
  induction pieces with
  | nil => simp [joinWith]
  | cons piece rest ih =>
    by_cases hrest : rest = []
    · subst hrest
      simp [joinWith]
    · rw [joinWith_cons piece hrest, List.forall_mem_cons, ← ih]
      simp only [String.toList_append, List.mem_append, or_imp, forall_and]
      exact ⟨fun h => ⟨h.1.1, h.2⟩, fun h => ⟨⟨h.1, hseparator⟩, h.2⟩⟩

/-! ### Lines -/

theorem allBlank_ofList {chars : List Char} :
    AllBlank (String.ofList chars) ↔ ∀ c ∈ chars, isBlank c = true := by
  simp only [AllBlank, String.toList_ofList]

-- a carriage return that does not belong to the line is blank
theorem allBlank_finishedLine {current : List Char} :
    AllBlank (finishedLine current) ↔ ∀ c ∈ current, isBlank c = true := by
  unfold finishedLine
  split
  · have hreturn : isBlank '\r' = true := by decide
    simp only [allBlank_ofList, List.mem_reverse, List.forall_mem_cons, hreturn, true_and]
  · simp only [allBlank_ofList, List.mem_reverse]

theorem allBlank_linesFrom (current rest : List Char) :
    (∀ line ∈ linesFrom current rest, AllBlank line) ↔
      (∀ c ∈ current, isBlank c = true) ∧ ∀ c ∈ rest, isBlank c = true := by
  induction rest generalizing current with
  | nil =>
    cases current with
    | nil => simp [linesFrom]
    | cons c current =>
      show (∀ line ∈ [String.ofList (c :: current).reverse], AllBlank line) ↔ _
      simp only [List.forall_mem_singleton, allBlank_ofList, List.mem_reverse, List.not_mem_nil, false_imp_iff,
        implies_true, and_true]
  | cons c rest ih =>
    unfold linesFrom
    split
    · next hfeed =>
      have hblank : isBlank c = true := by
        rw [hfeed]
        decide
      simp only [List.forall_mem_cons, allBlank_finishedLine, ih, hblank, true_and]
      simp
    · simp only [ih, List.forall_mem_cons, and_assoc, and_left_comm]

theorem allBlank_lines {text : String} : (∀ line ∈ lines text, AllBlank line) ↔ AllBlank text :=
  (allBlank_linesFrom [] text.toList).trans (by simp [AllBlank])

end ProtoClass.Text
