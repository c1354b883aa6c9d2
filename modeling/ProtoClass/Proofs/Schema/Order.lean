import Mathlib.Data.List.Basic
import ProtoClass.Proofs.Schema.Catalog

/-!
# The order of a catalogue

The messages of a catalogue are in the order of the files that declare them (`Catalog.messages_pairwise`).  Taking those
of one file after the other gives all of them, each once and in order (`flatMap_filter_index`).
-/

namespace ProtoClass

section Grouping

variable {α : Type} {index : α → Nat} {l : List α}

private theorem filter_append_filter_ne {first : Nat} (hsorted : l.Pairwise fun a b => index a ≤ index b)
    (hfirst : ∀ a ∈ l, first ≤ index a) :
    l.filter (index · == first) ++ l.filter (index · != first) = l := by
  induction l with
  | nil => rfl
  | cons a rest ih =>
    obtain ⟨hle, hrest⟩ := List.pairwise_cons.1 hsorted
    by_cases ha : index a = first
    · simp only [List.filter_cons, ha, beq_self_eq_true, bne_self_eq_false, if_true, List.cons_append]
      rw [if_neg (by simp), ih hrest fun b hb => hfirst b (List.mem_cons_of_mem _ hb)]
    · -- nothing after the first group belongs to it
      have hlt : first < index a := Nat.lt_of_le_of_ne (hfirst a List.mem_cons_self) (Ne.symm ha)
      have hne : ∀ b ∈ a :: rest, index b ≠ first := by
        intro b hb
        rcases List.mem_cons.1 hb with rfl | hb
        · exact ha
        · have := hle b hb
          omega
      rw [List.filter_eq_nil_iff.2 (by simpa using hne), List.filter_eq_self.2 (by simpa using hne), List.nil_append]

/-- A list that is in order of the indices of its elements is made of one group after the other. -/
theorem flatMap_filter_index {indices : List Nat} (hsorted : l.Pairwise fun a b => index a ≤ index b)
    (hindices : indices.Pairwise (· < ·)) (hmem : ∀ a ∈ l, index a ∈ indices) :
    indices.flatMap (fun i => l.filter (index · == i)) = l := by
  induction indices generalizing l with
  | nil =>
    rcases l with _ | ⟨a, rest⟩
    · rfl
    · exact absurd (hmem a List.mem_cons_self) List.not_mem_nil
  | cons first rest ih =>
    obtain ⟨hlt, hrest⟩ := List.pairwise_cons.1 hindices
    have hle : ∀ a ∈ l, first ≤ index a := by
      intro a ha
      rcases List.mem_cons.1 (hmem a ha) with heq | hlater
      · omega
      · exact Nat.le_of_lt (hlt _ hlater)
    have hothers : ∀ a ∈ l.filter (index · != first), index a ∈ rest := by
      intro a ha
      obtain ⟨ha, hne⟩ := List.mem_filter.1 ha
      exact (List.mem_cons.1 (hmem a ha)).resolve_left (by simpa using hne)
    have hgroups : rest.flatMap (fun i => l.filter (index · == i)) =
        rest.flatMap fun i => (l.filter (index · != first)).filter (index · == i) := by
      refine List.flatMap_congr fun i hi => ?_
      rw [List.filter_filter]
      refine List.filter_congr fun a _ => ?_
      have := hlt i hi
      by_cases ha : index a = i <;> simp [ha]
      omega
    rw [List.flatMap_cons, hgroups, ih (hsorted.filter _) hrest hothers, filter_append_filter_ne hsorted hle]

end Grouping

theorem firstByKey_sublist {α κ : Type} [DecidableEq κ] {key : α → κ} (l : List α) : (firstByKey key l).Sublist l := by
  induction l with
  | nil => exact List.Sublist.slnil
  | cons a rest ih => exact (List.filter_sublist.trans ih).cons_cons a

/-- Entries that are made for the files of a schema in order are in the order of the files. -/
private theorem pairwise_fileIndex {α : Type} {schema : Schema} {made : FileDecl × Nat → List (Entry α)}
    (hmade : ∀ item, ∀ entry ∈ made item, entry.fileIndex = item.2) :
    (schema.files.zipIdx.flatMap made).Pairwise fun a b => a.fileIndex ≤ b.fileIndex := by
  refine List.pairwise_flatMap.2 ⟨fun item _ => List.pairwise_of_forall_mem_list ?_,
    (zipIdx_pairwise schema.files).imp ?_⟩
  · intro a ha b hb
    exact Nat.le_of_eq ((hmade item a ha).trans (hmade item b hb).symm)
  · intro item other hlt a ha b hb
    rw [hmade item a ha, hmade other b hb]
    exact Nat.le_of_lt hlt

/-- The messages of a schema are in the order of their files. -/
theorem Catalog.messages_pairwise (schema : Schema) :
    (ofSchema schema).messages.Pairwise fun a b => a.fileIndex ≤ b.fileIndex := by
  refine List.Pairwise.sublist (firstByKey_sublist _) (pairwise_fileIndex fun item entry hentry => ?_)
  obtain ⟨d, _, hd⟩ := List.mem_filterMap.1 hentry
  unfold Declaration.asMessage? at hd
  split at hd
  · cases hd
    rfl
  · cases hd

end ProtoClass
