import Mathlib.Data.List.Forall2
import ProtoClass.Text.Camel

/-!
# Camel case of plain names

In a name of ASCII letters, digits and underscores every character is a cluster of its own, so the words of the name
are made of its characters without the underscores (`flatten_words`).  Camel case writes each of these in lower or in
upper case and changes nothing else (`camelCase_forms`).
-/

namespace ProtoClass.Text

/-- A character of a plain name: an ASCII letter or digit, or an underscore. -/
def isNameChar (c : Char) : Bool :=
  c.isAlphanum || c == '_'

theorem toNat_lt_of_isNameChar {c : Char} (h : isNameChar c = true) : c.toNat < 128 := by
  have hbound : ∀ {last : Char}, last.toNat < 128 → c.val ≤ last.val → c.toNat < 128 :=
    fun hlast hle => Nat.lt_of_le_of_lt (UInt32.le_iff_toNat_le.1 hle) hlast
  rcases Bool.or_eq_true_iff.1 h with hword | hunderscore
  · rcases Bool.or_eq_true_iff.1 hword with hletter | hdigit
    · rcases Bool.or_eq_true_iff.1 hletter with hupper | hlower
      · exact hbound (by decide) (of_decide_eq_true hupper).2
      · exact hbound (by decide) (of_decide_eq_true (Bool.and_eq_true_iff.1 hlower).2)
    · exact hbound (by decide) (of_decide_eq_true (Bool.and_eq_true_iff.1 hdigit).2)
  · obtain rfl := beq_iff_eq.1 hunderscore
    decide

/-- What can be checked for the characters of plain names one by one holds of all of them. -/
theorem forall_nameChar {p : Char → Prop} (h : ∀ n < 128, isNameChar (Char.ofNat n) = true → p (Char.ofNat n))
    {c : Char} (hc : isNameChar c = true) : p c := by
  have hp := h c.toNat (toNat_lt_of_isNameChar hc)
  rw [Char.ofNat_toNat] at hp
  exact hp hc

/-! ### Clusters -/

/-- The context after a character that joins nothing. -/
def BreakContext.plain : BreakContext := ⟨.other, false, false, false, false, false⟩

section Clusters

variable {c : Char}

theorem breakClass_of_isNameChar (h : isNameChar c = true) : breakClass c = .other :=
  forall_nameChar (p := fun c => breakClass c = .other) (by decide +kernel) h

theorem isPictograph_of_isNameChar (h : isNameChar c = true) : isPictograph c = false := by
  have hlt := toNat_lt_of_isNameChar h
  simp [isPictograph, Nat.not_le.2 hlt]

theorem isConjunctConsonant_of_isNameChar (h : isNameChar c = true) : isConjunctConsonant c = false := by
  have hlt := toNat_lt_of_isNameChar h
  simp [isConjunctConsonant, Nat.not_le.2 hlt]

theorem BreakContext.step_start (h : isNameChar c = true) : BreakContext.start.step c = .plain := by
  simp [step, start, plain, breakClass_of_isNameChar h, isPictograph_of_isNameChar h,
    isConjunctConsonant_of_isNameChar h]

theorem BreakContext.step_plain (h : isNameChar c = true) : BreakContext.plain.step c = .plain := by
  simp [step, plain, breakClass_of_isNameChar h, isPictograph_of_isNameChar h, isConjunctConsonant_of_isNameChar h]

theorem BreakContext.joins_plain (h : isNameChar c = true) : BreakContext.plain.joins c = false := by
  simp [joins, plain, breakClass_of_isNameChar h]

end Clusters

theorem clustersFrom_plain (last : Char) {text : List Char} (h : ∀ c ∈ text, isNameChar c = true) :
    clustersFrom .plain [last] text = [last] :: text.map ([·]) := by
  induction text generalizing last with
  | nil => rfl
  | cons c rest ih =>
    obtain ⟨hc, hrest⟩ := List.forall_mem_cons.1 h
    rw [clustersFrom, BreakContext.joins_plain hc, BreakContext.step_plain hc, ih c hrest]
    simp

/-- Every character of a plain name is a cluster. -/
theorem clusters_of_isNameChar {text : List Char} (h : ∀ c ∈ text, isNameChar c = true) :
    clusters text = text.map ([·]) := by
  cases text with
  | nil => rfl
  | cons c rest =>
    obtain ⟨hc, hrest⟩ := List.forall_mem_cons.1 h
    rw [clusters, clustersFrom, BreakContext.step_start hc, clustersFrom_plain c hrest]
    rfl

/-! ### Words -/

theorem isWordSeparator_singleton {c : Char} (h : isNameChar c = true) : isWordSeparator [c] = (c == '_') :=
  forall_nameChar (p := fun c => isWordSeparator [c] = (c == '_')) (by decide +kernel) h

theorem flatten_wordsFrom (word : List Char) {text : List Char} (h : ∀ c ∈ text, isNameChar c = true) :
    (wordsFrom word (text.map ([·]))).flatten = word ++ text.filter (· != '_') := by
  induction text generalizing word with
  | nil => simp [wordsFrom]
  | cons c rest ih =>
    obtain ⟨hc, hrest⟩ := List.forall_mem_cons.1 h
    rw [List.map_cons, wordsFrom, isWordSeparator_singleton hc]
    by_cases hsep : c = '_'
    · subst hsep
      simp [ih [] hrest]
    · rw [if_neg (by simpa using hsep), List.filter_cons_of_pos (by simpa using hsep)]
      split
      · simp [ih [] hrest]
      · simp [ih (word ++ [c]) hrest]

/-- The words of a plain name are made of its characters without the underscores. -/
theorem flatten_words {text : List Char} (h : ∀ c ∈ text, isNameChar c = true) :
    (words text).flatten = text.filter (· != '_') := by
  rw [words, clusters_of_isNameChar h, flatten_wordsFrom [] h, List.nil_append]

/-! ### Letter case -/

/-- A character in lower or in upper case. -/
def IsForm (c form : Char) : Prop :=
  form = c.toLower ∨ form = c.toUpper

theorem lowerFrom_of_isNameChar (before : List Char) {text : List Char} (h : ∀ c ∈ text, isNameChar c = true) :
    lowerFrom before text = text.map Char.toLower := by
  induction text generalizing before with
  | nil => rfl
  | cons c rest ih =>
    obtain ⟨hc, hrest⟩ := List.forall_mem_cons.1 h
    have hlt := toNat_lt_of_isNameChar hc
    have hsigma : c ≠ 'Σ' := by
      rintro rfl
      exact absurd hlt (by decide)
    simp [lowerFrom, lowerChar, hsigma, hlt, ih _ hrest]

theorem lower_forms {text : List Char} (h : ∀ c ∈ text, isNameChar c = true) :
    List.Forall₂ IsForm text (lower text) := by
  rw [lower, lowerFrom_of_isNameChar [] h, List.forall₂_map_right_iff, List.forall₂_same]
  exact fun c _ => Or.inl rfl

theorem capitalized_forms {word : List Char} (h : ∀ c ∈ word, isNameChar c = true) :
    List.Forall₂ IsForm word (capitalized word) := by
  cases word with
  | nil => exact List.Forall₂.nil
  | cons c rest =>
    obtain ⟨hc, hrest⟩ := List.forall_mem_cons.1 h
    rw [capitalized, upperChar, if_pos (toNat_lt_of_isNameChar hc), List.singleton_append]
    exact List.Forall₂.cons (Or.inr rfl) (lower_forms hrest)

theorem flatMap_capitalized_forms {words : List (List Char)}
    (h : ∀ word ∈ words, ∀ c ∈ word, isNameChar c = true) :
    List.Forall₂ IsForm words.flatten (words.flatMap capitalized) := by
  induction words with
  | nil => exact List.Forall₂.nil
  | cons word rest ih =>
    obtain ⟨hword, hrest⟩ := List.forall_mem_cons.1 h
    rw [List.flatten_cons, List.flatMap_cons]
    exact List.rel_append (capitalized_forms hword) (ih hrest)

/-- Camel case of a plain name has the characters of the name without the underscores, each in lower or in upper
case. -/
theorem camelCase_forms {name : String} (h : ∀ c ∈ name.toList, isNameChar c = true) :
    List.Forall₂ IsForm (name.toList.filter (· != '_')) (camelCase name).toList := by
  have hflatten := flatten_words h
  have hwords : ∀ word ∈ words name.toList, ∀ c ∈ word, isNameChar c = true := by
    intro word hword c hc
    have hmem : c ∈ (words name.toList).flatten := List.mem_flatten.2 ⟨word, hword, hc⟩
    rw [hflatten] at hmem
    exact h c (List.mem_filter.1 hmem).1
  rw [← hflatten]
  unfold camelCase
  rcases hlist : words name.toList with _ | ⟨first, rest⟩ <;> rw [hlist] at hwords
  · exact List.Forall₂.nil
  · obtain ⟨hfirst, hrest⟩ := List.forall_mem_cons.1 hwords
    rw [List.flatten_cons, String.toList_ofList]
    exact List.rel_append (lower_forms hfirst) (flatMap_capitalized_forms hrest)

end ProtoClass.Text
