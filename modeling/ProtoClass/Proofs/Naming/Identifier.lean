import ProtoClass.Proofs.Naming.Property
import ProtoClass.Proofs.Text.Camel

/-!
# Property names as identifiers

A schema name is an ASCII letter or underscore with letters, digits and underscores after it.  The property name made of
it is never a reserved word.  It begins with the first character of the name that is no underscore, in lower or upper
case, so it is an identifier unless that character is a digit (`propertyName_usable`).
-/

namespace ProtoClass

namespace TypeScript

theorem isIdentifier_append_underscore {word : String} (h : word ≠ "") :
    isIdentifier (word ++ "_") = isIdentifier word := by
  unfold isIdentifier
  rw [String.toList_append]
  rcases htext : word.toList with _ | ⟨c, rest⟩
  · exact absurd (String.toList_eq_nil_iff.1 htext) h
  · simp [isIdentifierPart]

/-- A reserved word stays an identifier when it is escaped. -/
theorem isIdentifier_escapeReserved {word : String} (h : word ≠ "") :
    isIdentifier (escapeReserved word) = isIdentifier word := by
  unfold escapeReserved
  split
  · exact isIdentifier_append_underscore h
  · rfl

end TypeScript

namespace Naming

open Text (isNameChar IsForm)
open TypeScript (isIdentifier isIdentifierStart isIdentifierPart isReserved)

/-- The name of a field or oneof as schemas can write it. -/
def isSchemaName (name : String) : Bool :=
  match name.toList with
  | [] => false
  | c :: rest => (c.isAlpha || c == '_') && rest.all isNameChar

theorem isNameChar_of_isSchemaName {name : String} (h : isSchemaName name = true) :
    ∀ c ∈ name.toList, isNameChar c = true := by
  unfold isSchemaName at h
  split at h
  · cases h
  · rename_i c rest htext
    rw [Bool.and_eq_true, List.all_eq_true] at h
    rw [htext, List.forall_mem_cons]
    refine ⟨?_, h.2⟩
    rcases Bool.or_eq_true_iff.1 h.1 with halpha | hunderscore
    · simp [isNameChar, Char.isAlphanum, halpha]
    · simp [isNameChar, hunderscore]

/-- In either case, a letter or digit can stand in an identifier, and a letter can begin one. -/
theorem isIdentifier_of_form {c form : Char} (hc : isNameChar c = true) (hunderscore : c ≠ '_') (h : IsForm c form) :
    isIdentifierPart form = true ∧ isIdentifierStart form = !c.isDigit := by
  have hforms := Text.forall_nameChar (p := fun c => c ≠ '_' →
    (isIdentifierPart c.toLower = true ∧ isIdentifierStart c.toLower = !c.isDigit) ∧
      isIdentifierPart c.toUpper = true ∧ isIdentifierStart c.toUpper = !c.isDigit) (by decide +kernel) hc hunderscore
  rcases h with rfl | rfl
  · exact hforms.1
  · exact hforms.2

theorem all_isIdentifierPart_of_forms {text forms : List Char} (htext : ∀ c ∈ text, isNameChar c = true ∧ c ≠ '_')
    (h : List.Forall₂ IsForm text forms) : forms.all isIdentifierPart = true := by
  induction h with
  | nil => rfl
  | cons hform _ ih =>
    obtain ⟨⟨hc, hunderscore⟩, hrest⟩ := List.forall_mem_cons.1 htext
    rw [List.all_cons, (isIdentifier_of_form hc hunderscore hform).1, ih hrest, Bool.and_self]

/-- Letters and digits in lower or upper case make an identifier if the first one is no digit. -/
theorem isIdentifier_of_forms {c : Char} {text : List Char} {word : String}
    (htext : ∀ d ∈ c :: text, isNameChar d = true ∧ d ≠ '_') (h : List.Forall₂ IsForm (c :: text) word.toList) :
    isIdentifier word = !c.isDigit := by
  obtain ⟨form, forms, hform, hforms, hword⟩ := List.forall₂_cons_left_iff.1 h
  obtain ⟨⟨hc, hunderscore⟩, hrest⟩ := List.forall_mem_cons.1 htext
  unfold isIdentifier
  simp only [hword]
  rw [(isIdentifier_of_form hc hunderscore hform).2, all_isIdentifierPart_of_forms hrest hforms, Bool.and_true]

theorem isIdentifier_of_isSchemaName {name : String} (h : isSchemaName name = true) : isIdentifier name = true := by
  unfold isSchemaName at h
  unfold isIdentifier
  rcases htext : name.toList with _ | ⟨c, rest⟩ <;> rw [htext] at h
  · cases h
  · obtain ⟨hfirst, hrest⟩ := Bool.and_eq_true_iff.1 h
    refine Bool.and_eq_true_iff.2 ⟨Bool.or_eq_true_iff.2 (Or.inl hfirst), List.all_eq_true.2 fun d hd => ?_⟩
    exact Bool.or_eq_true_iff.2 (Or.inl (List.all_eq_true.1 hrest d hd))

/-- A property name is never a reserved word, and it is an identifier unless the first character of the schema name
that is no underscore is a digit. -/
theorem propertyName_usable (name : String) (h : isSchemaName name = true) :
    isReserved (propertyName name) = false ∧
      (isIdentifier (propertyName name) = true ↔
        ∀ c, name.toList.find? (· != '_') = some c → c.isDigit = false) := by
  refine ⟨TypeScript.isReserved_escapeReserved _, ?_⟩
  have hchars := isNameChar_of_isSchemaName h
  have hforms := Text.camelCase_forms hchars
  rw [← List.head?_filter]
  unfold propertyName
  rcases htext : name.toList.filter (· != '_') with _ | ⟨first, rest⟩ <;> rw [htext] at hforms
  · -- the name is all underscores and stays as it is
    have hempty : Text.camelCase name = "" := String.toList_eq_nil_iff.1 (List.forall₂_nil_left_iff.1 hforms)
    have hne : name ≠ "" := by
      rintro rfl
      cases h
    simp [hempty, TypeScript.isIdentifier_escapeReserved hne, isIdentifier_of_isSchemaName h]
  · have hne : Text.camelCase name ≠ "" := by
      intro hempty
      rw [hempty] at hforms
      cases hforms
    have hfirst : ∀ d ∈ first :: rest, isNameChar d = true ∧ d ≠ '_' := by
      intro d hd
      rw [← htext, List.mem_filter] at hd
      exact ⟨hchars d hd.1, by simpa using hd.2⟩
    simp [hne, TypeScript.isIdentifier_escapeReserved hne, isIdentifier_of_forms hfirst hforms]

/-- The words `as` and the empty one make a reserved word, which is escaped. -/
theorem propertyName_usable_as :
    isSchemaName "as_" = true ∧ propertyName "as_" = "as_" ∧ isReserved (propertyName "as_") = false ∧
      isIdentifier (propertyName "as_") = true := by
  have hname : isSchemaName "as_" = true := by decide +kernel
  obtain ⟨hreserved, hidentifier⟩ := propertyName_usable "as_" hname
  refine ⟨hname, by decide +kernel, hreserved, hidentifier.2 fun c hc => ?_⟩
  have hfirst : "as_".toList.find? (· != '_') = some 'a' := by decide +kernel
  rw [hfirst] at hc
  cases hc
  rfl

/-- A digit comes first when the underscores in front of it are left out. -/
theorem propertyName_not_identifier : isSchemaName "_1" = true ∧ isIdentifier (propertyName "_1") = false := by
  decide +kernel

end Naming

end ProtoClass
