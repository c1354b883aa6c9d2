import ProtoClass.Naming.Property
import ProtoClass.Proofs.Naming.Fresh

/-!
# Property names given out in one message

A property name is never a reserved word: a reserved word gets an underscore, and no reserved word ends in one
(`isReserved_allocate`).  The names that are given out one after the other are different (`LocalNames.Apart`,
`LocalNames.Apart.allocate`).
-/

namespace ProtoClass

namespace TypeScript

theorem getLast?_ne_of_isReserved {word : String} (h : isReserved word = true) : word.toList.getLast? ≠ some '_' := by
  have hall : ∀ reserved ∈ reservedWords, reserved.toList.getLast? ≠ some '_' := by decide +kernel
  exact hall word (List.contains_iff_mem.1 h)

theorem isReserved_escapeReserved (word : String) : isReserved (escapeReserved word) = false := by
  unfold escapeReserved
  split
  · rw [← Bool.not_eq_true]
    intro hreserved
    exact getLast?_ne_of_isReserved hreserved (by simp)
  · rename_i hword
    simpa using hword

end TypeScript

namespace Naming

open TypeScript (isReserved)

theorem isReserved_underscored {name : String} (h : isReserved name = false) (n : Nat) :
    isReserved (underscored name n) = false := by
  cases n with
  | zero => simpa [underscored] using h
  | succ n =>
    rw [← Bool.not_eq_true]
    intro hreserved
    refine TypeScript.getLast?_ne_of_isReserved hreserved ?_
    simp [underscored, List.replicate_succ']

namespace LocalNames

variable (names : LocalNames) (schemaName : String) (reserved : Option String)

theorem allocate_not_mem : (names.allocate schemaName reserved).1 ∉ reserved.toList ++ names.used :=
  firstFree_not_mem (underscored_injective _) _

theorem isReserved_allocate : isReserved (names.allocate schemaName reserved).1 = false := by
  have hname : isReserved (propertyName schemaName) = false := TypeScript.isReserved_escapeReserved _
  exact isReserved_underscored hname _

/-- The names given out are different from each other, and no reserved words. -/
structure Apart (names : LocalNames) : Prop where
  nodup : names.used.Nodup
  unreserved : ∀ name ∈ names.used, isReserved name = false

theorem apart_empty : ({} : LocalNames).Apart :=
  ⟨List.nodup_nil, by simp⟩

variable {names}

theorem Apart.allocate (h : names.Apart) : (names.allocate schemaName reserved).2.Apart := by
  have hfree := names.allocate_not_mem schemaName reserved
  rw [List.mem_append, not_or] at hfree
  refine ⟨List.nodup_cons.2 ⟨hfree.2, h.nodup⟩, ?_⟩
  exact List.forall_mem_cons.2 ⟨names.isReserved_allocate schemaName reserved, h.unreserved⟩

end LocalNames

end Naming

end ProtoClass
