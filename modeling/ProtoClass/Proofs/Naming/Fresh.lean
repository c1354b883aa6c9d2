import Mathlib.Data.List.Perm.Subperm
import ProtoClass.Naming.Fresh

/-!
# Names that are free: the search ends on one

A search that looks at more different candidates than there are taken names finds a free one
(`firstFree_not_mem`), and it is the first one (`firstFree_eq`).  Both sequences of candidates are sequences of
different names (`numbered_injective`, `underscored_injective`).  Numbered names without other dollar signs are told
apart by what is numbered as well (`eq_of_numbered_eq`).
-/

namespace ProtoClass.Naming

/-- Every candidate before the one that the search ends on is taken. -/
theorem mem_of_lt_freeIndex (candidate : Nat → String) (taken : List String) {fuel start i : Nat}
    (hstart : start ≤ i) (hi : i < freeIndex candidate taken fuel start) : candidate i ∈ taken := by
  induction fuel generalizing start with
  | zero =>
    unfold freeIndex at hi
    omega
  | succ fuel ih =>
    unfold freeIndex at hi
    split at hi
    · rename_i hc
      rcases Nat.eq_or_lt_of_le hstart with rfl | hlt
      · simpa using hc
      · exact ih hlt hi
    · omega

private theorem freeIndex_free_or_exhausted (candidate : Nat → String) (taken : List String) (fuel start : Nat) :
    candidate (freeIndex candidate taken fuel start) ∉ taken ∨
      freeIndex candidate taken fuel start = start + fuel := by
  induction fuel generalizing start with
  | zero => exact Or.inr rfl
  | succ fuel ih =>
    unfold freeIndex
    split
    · rcases ih (start + 1) with h | h
      · exact Or.inl h
      · exact Or.inr (by omega)
    · rename_i hc
      exact Or.inl (by simpa using hc)

/-- The first free candidate is free, if no two candidates are the same. -/
theorem firstFree_not_mem {candidate : Nat → String} (hinj : ∀ i j, candidate i = candidate j → i = j)
    (taken : List String) : firstFree candidate taken ∉ taken := by
  intro hmem
  have hend : freeIndex candidate taken taken.length 0 = taken.length := by
    rcases freeIndex_free_or_exhausted candidate taken taken.length 0 with h | h
    · exact absurd hmem h
    · omega
  -- one candidate more than there are taken names would be taken
  have hall : (List.range (taken.length + 1)).map candidate ⊆ taken := by
    intro name hname
    obtain ⟨i, hi, rfl⟩ := List.mem_map.1 hname
    rcases Nat.lt_or_eq_of_le (Nat.le_of_lt_succ (List.mem_range.1 hi)) with hlt | rfl
    · exact mem_of_lt_freeIndex candidate taken (Nat.zero_le i) (by rw [hend]; exact hlt)
    · unfold firstFree at hmem
      rwa [hend] at hmem
  have hnodup : ((List.range (taken.length + 1)).map candidate).Nodup :=
    List.Pairwise.map candidate (fun i j hne heq => hne (hinj i j heq)) List.nodup_range
  have hlen := (List.subperm_of_subset hnodup hall).length_le
  rw [List.length_map, List.length_range] at hlen
  omega

/-- All candidates before the first free one are taken. -/
theorem exists_firstFree (candidate : Nat → String) (taken : List String) :
    ∃ index, firstFree candidate taken = candidate index ∧ ∀ earlier < index, candidate earlier ∈ taken :=
  ⟨_, rfl, fun earlier h => mem_of_lt_freeIndex candidate taken (Nat.zero_le earlier) h⟩

theorem firstFree_eq {candidate : Nat → String} (hinj : ∀ i j, candidate i = candidate j → i = j) {taken : List String}
    {index : Nat} (hfree : candidate index ∉ taken) (htaken : ∀ earlier < index, candidate earlier ∈ taken) :
    firstFree candidate taken = candidate index := by
  obtain ⟨found, hfound, hbefore⟩ := exists_firstFree candidate taken
  have hnot := firstFree_not_mem hinj taken
  rw [hfound] at hnot ⊢
  rcases Nat.lt_trichotomy found index with hlt | rfl | hgt
  · exact absurd (htaken found hlt) hnot
  · rfl
  · exact absurd (hbefore index hgt) hfree

theorem numbered_succ_toList (name : String) (n : Nat) :
    (numbered name (n + 1)).toList = name.toList ++ '$' :: Nat.toDigits 10 (n + 1) := by
  simp [numbered]

theorem numbered_injective (name : String) (i j : Nat) (h : numbered name i = numbered name j) : i = j := by
  have hlist : (numbered name i).toList = (numbered name j).toList := by rw [h]
  cases i with
  | zero =>
    cases j with
    | zero => rfl
    | succ j => simp [numbered] at hlist
  | succ i =>
    cases j with
    | zero => simp [numbered] at hlist
    | succ j =>
      rw [numbered_succ_toList, numbered_succ_toList, List.append_cancel_left_eq, List.cons.injEq] at hlist
      rw [← Nat.ofDigitChars_ten_toDigits (n := i + 1), hlist.2, Nat.ofDigitChars_ten_toDigits]

private theorem takeWhile_numbered {name : String} (h : '$' ∉ name.toList) (n : Nat) :
    (numbered name n).toList.takeWhile (· != '$') = name.toList := by
  have hall : ∀ c ∈ name.toList, (c != '$') = true := by
    intro c hc
    simpa using fun heq : c = '$' => h (heq ▸ hc)
  cases n with
  | zero =>
    have hend : (name.toList ++ []).takeWhile (· != '$') = name.toList ++ [] := List.takeWhile_append_of_pos hall
    rwa [List.append_nil] at hend
  | succ n =>
    rw [numbered_succ_toList, List.takeWhile_append_of_pos hall, List.takeWhile_cons_of_neg (by decide),
      List.append_nil]

theorem eq_of_numbered_eq {name name' : String} (hname : '$' ∉ name.toList) (hname' : '$' ∉ name'.toList) {i j : Nat}
    (h : numbered name i = numbered name' j) : name = name' ∧ i = j := by
  have hnames : name = name' := by
    rw [← String.toList_inj, ← takeWhile_numbered hname i, h, takeWhile_numbered hname' j]
  subst hnames
  exact ⟨rfl, numbered_injective name i j h⟩

theorem underscored_injective (name : String) (i j : Nat) (h : underscored name i = underscored name j) :
    i = j := by
  have hlen := congrArg (fun s => s.toList.length) h
  simpa [underscored] using hlen

end ProtoClass.Naming
