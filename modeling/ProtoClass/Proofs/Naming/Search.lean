import ProtoClass.Proofs.Naming.Fresh

/-!
# Searches for a name without a bound

Nothing but the taken names limits how far a search for a free name goes.  `SearchEnds` is the search without any bound,
and the bound that `firstFree` has is never what stops it (`firstFree_searchEnds`): the candidates are all different, so
it ends after at most one candidate more than there are taken names.  For numbered names this is
`numbered_first_fit`.
-/

namespace ProtoClass.Naming

/-- Looking through the candidates from the first index on, one after the other, ends at the second index. -/
inductive SearchEnds (candidate : Nat → String) (taken : String → Prop) : Nat → Nat → Prop
  | free {index : Nat} (hfree : ¬taken (candidate index)) : SearchEnds candidate taken index index
  | next {index found : Nat} (htaken : taken (candidate index)) (hrest : SearchEnds candidate taken (index + 1) found) :
    SearchEnds candidate taken index found

namespace SearchEnds

variable {candidate : Nat → String} {taken : String → Prop} {start found : Nat}

theorem not_taken (h : SearchEnds candidate taken start found) : ¬taken (candidate found) := by
  induction h with
  | free hfree => exact hfree
  | next _ _ ih => exact ih

theorem taken_of_lt (h : SearchEnds candidate taken start found) {index : Nat} (hstart : start ≤ index)
    (hfound : index < found) : taken (candidate index) := by
  induction h with
  | free _ => omega
  | next htaken _ ih =>
    rcases Nat.eq_or_lt_of_le hstart with rfl | hlt
    · exact htaken
    · exact ih hlt hfound

end SearchEnds

theorem freeIndex_le (candidate : Nat → String) (taken : List String) (fuel start : Nat) :
    freeIndex candidate taken fuel start ≤ start + fuel := by
  induction fuel generalizing start with
  | zero => exact Nat.le_refl start
  | succ fuel ih =>
    unfold freeIndex
    split
    · have hrest := ih (start + 1)
      omega
    · omega

/-- A search with a bound that comes to a free candidate ends where the one without a bound ends. -/
theorem searchEnds_freeIndex {candidate : Nat → String} {taken : List String} {fuel start : Nat}
    (h : candidate (freeIndex candidate taken fuel start) ∉ taken) :
    SearchEnds candidate (· ∈ taken) start (freeIndex candidate taken fuel start) := by
  induction fuel generalizing start with
  | zero => exact SearchEnds.free h
  | succ fuel ih =>
    unfold freeIndex at h ⊢
    split at h
    · rename_i htaken
      rw [if_pos htaken]
      exact SearchEnds.next (List.contains_iff_mem.1 htaken) (ih h)
    · rename_i hfree
      rw [if_neg hfree]
      exact SearchEnds.free h

theorem firstFree_searchEnds {candidate : Nat → String} (hinj : ∀ i j, candidate i = candidate j → i = j)
    (taken : List String) :
    ∃ index ≤ taken.length, firstFree candidate taken = candidate index ∧
      SearchEnds candidate (· ∈ taken) 0 index := by
  refine ⟨freeIndex candidate taken taken.length 0, ?_, rfl, searchEnds_freeIndex (firstFree_not_mem hinj taken)⟩
  exact Nat.le_trans (freeIndex_le candidate taken taken.length 0) (Nat.le_of_eq (Nat.zero_add _))

/-- The search through a name and the name with the decimal numerals 1, 2, 3 and so on after a dollar sign ends, with no
bound on it.  The first of these names that is not taken is the answer: it is not taken, and all before it are. -/
theorem numbered_first_fit (name : String) (taken : List String) :
    numbered name 0 = name ∧
      (∀ n, (numbered name (n + 1)).toList = name.toList ++ '$' :: Nat.toDigits 10 (n + 1)) ∧
      ∃ index ≤ taken.length, SearchEnds (numbered name) (· ∈ taken) 0 index ∧
        firstFree (numbered name) taken = numbered name index ∧ numbered name index ∉ taken ∧
        ∀ earlier < index, numbered name earlier ∈ taken := by
  obtain ⟨index, hindex, hfound, hends⟩ := firstFree_searchEnds (numbered_injective name) taken
  refine ⟨rfl, numbered_succ_toList name, index, hindex, hends, hfound, hends.not_taken, ?_⟩
  intro earlier hearlier
  exact hends.taken_of_lt (Nat.zero_le earlier) hearlier

/-- A taken name may itself look numbered, and names farther on do not count. -/
example : firstFree (numbered "Point") ["Point$1", "Point", "Point$3", "Point$01"] = "Point$2" := by
  decide +kernel

end ProtoClass.Naming
