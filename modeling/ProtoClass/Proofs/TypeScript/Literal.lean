import ProtoClass.TypeScript.Lexical

/-!
# Literals read back

A literal ends at the first quote that no backslash hides (`scanLiteral_escapeLiteral`), and what stands before it,
with the backslashes taken away, is the text of the literal (`unescape_escapeLiteral`).  Backslashes stand for quotes,
backslashes and line feeds only (`decode?_escapeLiteral`).  `literal_delimits_itself` puts these together.
-/

namespace ProtoClass.TypeScript

/-- Splits the text after an opening quote at the closing one.  A backslash hides the character after it. -/
def scanLiteral : List Char → Option (List Char × List Char)
  | [] => none
  | '"' :: rest => some ([], rest)
  | '\\' :: c :: rest => (scanLiteral rest).map fun found => ('\\' :: c :: found.1, found.2)
  | c :: rest => (scanLiteral rest).map fun found => (c :: found.1, found.2)

/-- The text that a literal stands for. -/
def unescape : List Char → List Char
  | [] => []
  | '\\' :: 'n' :: rest => '\n' :: unescape rest
  | '\\' :: c :: rest => c :: unescape rest
  | c :: rest => c :: unescape rest

/-- The character that a backslash with the given character after it stands for. -/
def escaped? : Char → Option Char
  | '"' => some '"'
  | '\\' => some '\\'
  | 'n' => some '\n'
  | _ => none

/-- The text that a literal stands for, read strictly: there are no backslashes but in the three known places, and no
quotes without a backslash. -/
def decode? : List Char → Option (List Char)
  | [] => some []
  | '\\' :: c :: rest => (escaped? c).bind fun d => (decode? rest).map (d :: ·)
  | c :: rest => if c = '"' ∨ c = '\\' then none else (decode? rest).map (c :: ·)

theorem scanLiteral_cons {c : Char} (hquote : c ≠ '"') (hbackslash : c ≠ '\\') (rest : List Char) :
    scanLiteral (c :: rest) = (scanLiteral rest).map fun found => (c :: found.1, found.2) := by
  simp [scanLiteral, hbackslash]

theorem unescape_cons {c : Char} (hbackslash : c ≠ '\\') (rest : List Char) :
    unescape (c :: rest) = c :: unescape rest := by
  simp [unescape, hbackslash]

theorem unescape_escaped {shown c : Char} (h : escaped? shown = some c) (rest : List Char) :
    unescape ('\\' :: shown :: rest) = c :: unescape rest := by
  unfold escaped? at h
  split at h <;> cases h <;> simp [unescape]

theorem decode?_cons {c : Char} (hquote : c ≠ '"') (hbackslash : c ≠ '\\') (rest : List Char) :
    decode? (c :: rest) = (decode? rest).map (c :: ·) := by
  simp [decode?, hquote, hbackslash]

theorem decode?_escaped {shown c : Char} (h : escaped? shown = some c) (rest : List Char) :
    decode? ('\\' :: shown :: rest) = (decode? rest).map (c :: ·) := by
  simp [decode?, h]

/-- The characters of a text as a literal shows them. -/
def escapeLiteral (text : List Char) : List Char :=
  text.flatMap escapeLiteralChar

theorem toList_literal (text : String) : (literal text).toList = '"' :: (escapeLiteral text.toList ++ ['"']) := by
  simp [literal, escapeLiteral]

/-- A character is shown as itself, and is then none of those that have to be hidden, or it is hidden by a backslash. -/
theorem escapeLiteral_cons_cases (c : Char) (text : List Char) :
    (escapeLiteral (c :: text) = c :: escapeLiteral text ∧ c ≠ '"' ∧ c ≠ '\\' ∧ c ≠ '\n') ∨
      ∃ shown, escapeLiteral (c :: text) = '\\' :: shown :: escapeLiteral text ∧ escaped? shown = some c := by
  unfold escapeLiteral
  rw [List.flatMap_cons]
  by_cases hquote : c = '"'
  · subst hquote
    exact Or.inr ⟨'"', rfl, rfl⟩
  by_cases hbackslash : c = '\\'
  · subst hbackslash
    exact Or.inr ⟨'\\', rfl, rfl⟩
  by_cases hfeed : c = '\n'
  · subst hfeed
    exact Or.inr ⟨'n', rfl, rfl⟩
  · exact Or.inl ⟨by simp [escapeLiteralChar, hquote, hbackslash, hfeed], hquote, hbackslash, hfeed⟩

theorem scanLiteral_escapeLiteral (text rest : List Char) :
    scanLiteral (escapeLiteral text ++ '"' :: rest) = some (escapeLiteral text, rest) := by
  induction text with
  | nil => rfl
  | cons c text ih =>
    rcases escapeLiteral_cons_cases c text with ⟨hshown, hquote, hbackslash, _⟩ | ⟨shown, hshown, _⟩
    · rw [hshown, List.cons_append, scanLiteral_cons hquote hbackslash, ih]
      rfl
    · simp [hshown, scanLiteral, ih]

theorem unescape_escapeLiteral (text : List Char) : unescape (escapeLiteral text) = text := by
  induction text with
  | nil => rfl
  | cons c text ih =>
    rcases escapeLiteral_cons_cases c text with ⟨hshown, _, hbackslash, _⟩ | ⟨shown, hshown, hread⟩
    · rw [hshown, unescape_cons hbackslash, ih]
    · rw [hshown, unescape_escaped hread, ih]

theorem decode?_escapeLiteral (text : List Char) : decode? (escapeLiteral text) = some text := by
  induction text with
  | nil => rfl
  | cons c text ih =>
    rcases escapeLiteral_cons_cases c text with ⟨hshown, hquote, hbackslash, _⟩ | ⟨shown, hshown, hread⟩
    · rw [hshown, decode?_cons hquote hbackslash, ih, Option.map_some]
    · rw [hshown, decode?_escaped hread, ih, Option.map_some]

theorem feed_not_mem_escapeLiteral (text : List Char) : '\n' ∉ escapeLiteral text := by
  induction text with
  | nil => exact List.not_mem_nil
  | cons c text ih =>
    rcases escapeLiteral_cons_cases c text with ⟨hshown, _, _, hfeed⟩ | ⟨shown, hshown, hread⟩
    · rw [hshown, List.mem_cons, not_or]
      exact ⟨hfeed.symm, ih⟩
    · -- a line feed after a backslash would stand for nothing
      have hafter : '\n' ≠ shown := by
        rintro rfl
        cases hread
      rw [hshown, List.mem_cons, List.mem_cons, not_or, not_or]
      exact ⟨by decide, hafter, ih⟩

/-- A literal ends itself, whatever text follows: who reads on from the opening quote, over every character that a
backslash hides, stops at the closing quote.  No line feed stands in between, and what stands there is read as the text
of the literal. -/
theorem literal_delimits_itself (text rest : String) :
    ∃ shown, (literal text).toList = '"' :: (shown ++ ['"']) ∧
      scanLiteral (literal text ++ rest).toList.tail = some (shown, rest.toList) ∧
      '\n' ∉ shown ∧ decode? shown = some text.toList := by
  refine ⟨escapeLiteral text.toList, toList_literal text, ?_, feed_not_mem_escapeLiteral _, decode?_escapeLiteral _⟩
  have hscan := scanLiteral_escapeLiteral text.toList rest.toList
  simpa [toList_literal] using hscan

/-- Backslashes and quotes in a row, with a quote right after the literal. -/
example :
    scanLiteral (literal "\\\"\n\\" ++ "\"").toList.tail =
      some (['\\', '\\', '\\', '"', '\\', 'n', '\\', '\\'], ['"']) := by
  decide +kernel

end ProtoClass.TypeScript
