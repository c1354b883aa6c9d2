import ProtoClass.Proofs.TypeScript.Literal
import ProtoClass.TypeScript.TypeExpr

/-!
# Reading the text of a type

A reader of type expressions that works on a list of characters and gives back what it did not read.  A word ends in
front of the first character that is not part of an identifier (`Ends isIdentifierPart`), a type that is no union in
front of anything but a bracket, and a type in front of anything but a bracket or a bar.  Each piece of a text is read
back in front of a rest at which it ends: `readWord_append` for words, `readElement_word` for the types that are one
word, `readProperty_append` for properties and `Reader.separatedBy_joinWith` for lists with separators.
-/

namespace ProtoClass.TypeScript

/-! ### A reader of types -/

/-- Reads something from the front of a text and gives back the rest of the text. -/
abbrev Reader (α : Type) := List Char → Option (α × List Char)

/-- The longest word at the front of a text. -/
def readWord (text : List Char) : String × List Char :=
  (String.ofList (text.takeWhile isIdentifierPart), text.dropWhile isIdentifierPart)

namespace Reader

/-- Reads what stands before a closing mark, and the mark. -/
def closedBy {α : Type} (item : Reader α) (mark : Char) : Reader α := fun text =>
  match item text with
  | some (a, c :: rest) => if c = mark then some (a, rest) else none
  | _ => none

/-- Reads one or more items with separators between them, at most as many as `fuel` says. -/
def separatedBy {α : Type} (item : Reader α) (separator : Char) : Nat → Reader (List α)
  | 0, _ => none
  | fuel + 1, text =>
    match item text with
    | none => none
    | some (first, c :: rest) =>
      if c = separator then (separatedBy item separator fuel rest).map fun others => (first :: others.1, others.2)
      else some ([first], c :: rest)
    | some (first, []) => some ([first], [])

end Reader

/-- The built-in type with the given text. -/
def Primitive.ofText? (text : String) : Option Primitive :=
  [boolean, number, string, bigint, uint8Array, undefined].find? (·.render == text)

namespace TypeExpr

/-- The type that a word stands for. -/
def ofWord (word : String) : TypeExpr :=
  match Primitive.ofText? word with
  | some type => .primitive type
  | none => .reference word

/-- The type with the given members: the union of them, if there are several. -/
def ofMembers : List TypeExpr → TypeExpr
  | [type] => type
  | types => .union types

/-- Adds an array for every pair of brackets at the front of the text. -/
def readArrays (element : TypeExpr) : List Char → TypeExpr × List Char
  | '[' :: ']' :: rest => readArrays (.array element) rest
  | rest => (element, rest)

section

variable (type : Reader TypeExpr)

/-- Reads a property, given a reader of types. -/
def readProperty : Reader Property := fun text =>
  match (readWord text).2 with
  | ':' :: rest => (type rest).map fun found => (⟨(readWord text).1, found.1, false⟩, found.2)
  | '?' :: ':' :: rest => (type rest).map fun found => (⟨(readWord text).1, found.1, true⟩, found.2)
  | _ => none

/-- Reads what comes after the opening brace of an object type. -/
def readObject (fuel : Nat) : Reader TypeExpr
  | '\x7d' :: rest => some (.record [], rest)
  | '[' :: 'k' :: 'e' :: 'y' :: ':' :: rest =>
    match type.closedBy ']' rest with
    | some (key, ':' :: rest) => (type.closedBy '\x7d' rest).map fun value => (.index key value.1, value.2)
    | _ => none
  | text =>
    (((readProperty type).separatedBy ',' fuel).closedBy '\x7d' text).map fun found => (.record found.1, found.2)

/-- Reads a type without what makes an array or a union of it. -/
def readAtom (fuel : Nat) : Reader TypeExpr
  | '"' :: rest => (scanLiteral rest).map fun found => (.literal (String.ofList (unescape found.1)), found.2)
  | '(' :: rest => type.closedBy ')' rest
  | '\x7b' :: rest => readObject type fuel rest
  | text => some (ofWord (readWord text).1, (readWord text).2)

/-- Reads a type that is no union. -/
def readElement (fuel : Nat) : Reader TypeExpr := fun text =>
  (readAtom type fuel text).map fun found => readArrays found.1 found.2

end

/-- Reads a type; `fuel` bounds the depth and the lengths of lists. -/
def readType : Nat → Reader TypeExpr
  | 0, _ => none
  | fuel + 1, text =>
    (Reader.separatedBy (readElement (readType fuel) fuel) '|' (fuel + 1) text).map fun found =>
      (ofMembers found.1, found.2)

end TypeExpr

/-! ### Where a word, an element and a type end -/

/-- The text does not start with a character of the given kind. -/
def Ends (continues : Char → Bool) (rest : List Char) : Prop :=
  ∀ c ∈ rest.head?, continues c = false

/-- The characters that go on with a word or an array. -/
def continuesElement (c : Char) : Bool :=
  isIdentifierPart c || c == '['

/-- The characters that go on with a word, an array or a union. -/
def continuesType (c : Char) : Bool :=
  continuesElement c || c == '|'

theorem ends_nil (continues : Char → Bool) : Ends continues [] := by
  simp [Ends]

theorem ends_cons {continues : Char → Bool} {c : Char} {rest : List Char} :
    Ends continues (c :: rest) ↔ continues c = false := by
  simp [Ends]

variable {rest : List Char}

theorem Ends.word (h : Ends continuesElement rest) : Ends isIdentifierPart rest := by
  intro c hc
  have hends := h c hc
  simp only [continuesElement, Bool.or_eq_false_iff] at hends
  exact hends.1

theorem Ends.element (h : Ends continuesType rest) : Ends continuesElement rest := by
  intro c hc
  have hends := h c hc
  simp only [continuesType, Bool.or_eq_false_iff] at hends
  exact hends.1

/-! ### Words -/

theorem isIdentifierPart_of_start {c : Char} (h : isIdentifierStart c = true) : isIdentifierPart c = true := by
  simp only [isIdentifierStart, isIdentifierPart, Char.isAlphanum, Bool.or_eq_true] at h ⊢
  rcases h with (h | h) | h <;> simp [h]

theorem ne_of_isIdentifierStart {c mark : Char} (h : isIdentifierStart c = true)
    (hmark : isIdentifierStart mark = false) : c ≠ mark := by
  rintro rfl
  exact absurd h (by simp [hmark])

theorem toList_of_isIdentifier {word : String} (h : isIdentifier word = true) :
    (∃ c tail, word.toList = c :: tail ∧ isIdentifierStart c = true) ∧
      ∀ c ∈ word.toList, isIdentifierPart c = true := by
  unfold isIdentifier at h
  rcases hword : word.toList with _ | ⟨c, tail⟩ <;> rw [hword] at h
  · cases h
  · simp only [Bool.and_eq_true, List.all_eq_true] at h
    exact ⟨⟨c, tail, rfl, h.1⟩, List.forall_mem_cons.2 ⟨isIdentifierPart_of_start h.1, h.2⟩⟩

theorem readWord_append {word : String} (h : isIdentifier word = true) (hrest : Ends isIdentifierPart rest) :
    readWord (word.toList ++ rest) = (word, rest) := by
  have hword := (toList_of_isIdentifier h).2
  have htake : rest.takeWhile isIdentifierPart = [] := by
    cases rest with
    | nil => rfl
    | cons c rest => simp [ends_cons.1 hrest]
  have hdrop : rest.dropWhile isIdentifierPart = rest := by
    cases rest with
    | nil => rfl
    | cons c rest => simp [ends_cons.1 hrest]
  unfold readWord
  rw [List.takeWhile_append_of_pos hword, List.dropWhile_append_of_pos hword, htake, hdrop, List.append_nil,
    String.ofList_toList]

namespace Primitive

theorem isIdentifier_render (type : Primitive) : isIdentifier type.render = true := by
  cases type <;> decide

theorem ofText?_render (type : Primitive) : ofText? type.render = some type := by
  cases type <;> decide

theorem ofText?_eq_none {text : String} (h : ∀ type : Primitive, text ≠ type.render) : ofText? text = none := by
  refine List.find?_eq_none.2 fun type _ => ?_
  simpa using (h type).symm

end Primitive

/-! ### Reading a list back -/

theorem toList_joinWith_cons_cons (separator : Char) (first second : String) (others : List String) :
    (Text.joinWith (String.singleton separator) (first :: second :: others)).toList =
      first.toList ++ separator :: (Text.joinWith (String.singleton separator) (second :: others)).toList := by
  simp [Text.joinWith]

namespace Reader

variable {α : Type} {item : Reader α}

theorem closedBy_eq_some {text : List Char} {a : α} {mark : Char} (h : item text = some (a, mark :: rest)) :
    item.closedBy mark text = some (a, rest) := by
  simp [closedBy, h]

/-- A list with separators is read back, if each item is read back in front of a separator and in front of the rest. -/
theorem separatedBy_joinWith {shown : α → String} {separator : Char} {continues : Char → Bool}
    (hseparator : continues separator = false) (hrest : Ends continues rest) (hend : rest.head? ≠ some separator)
    {items : List α} (hitems : items ≠ [])
    (hreads : ∀ a ∈ items, ∀ rest, Ends continues rest → item ((shown a).toList ++ rest) = some (a, rest))
    {fuel : Nat} (hfuel : items.length ≤ fuel) :
    item.separatedBy separator fuel
      ((Text.joinWith (String.singleton separator) (items.map shown)).toList ++ rest) = some (items, rest) := by
  induction items generalizing fuel with
  | nil => exact absurd rfl hitems
  | cons first others ih =>
    obtain ⟨fuel, rfl⟩ : ∃ n, fuel = n + 1 := ⟨fuel - 1, by simp at hfuel; omega⟩
    have hfirst := hreads first List.mem_cons_self
    cases others with
    | nil =>
      have hread := hfirst rest hrest
      cases rest with
      | nil => simp_all [separatedBy, Text.joinWith]
      | cons c rest =>
        have hc : c ≠ separator := by simpa using hend
        simp only [List.map_cons, List.map_nil, Text.joinWith, separatedBy, hread, if_neg hc]
    | cons second others =>
      have hothers := @ih (by simp) (fun a ha => hreads a (List.mem_cons_of_mem _ ha)) fuel (by simpa using hfuel)
      have hread := hfirst (separator ::
        ((Text.joinWith (String.singleton separator) ((second :: others).map shown)).toList ++ rest))
        (ends_cons.2 hseparator)
      rw [List.map_cons, List.map_cons, toList_joinWith_cons_cons, ← List.map_cons, List.append_assoc,
        List.cons_append]
      simp only [separatedBy, hread, if_true, hothers, Option.map_some]

end Reader

namespace TypeExpr

/-! ### Reading words, arrays and properties back -/

theorem ofWord_render (type : Primitive) : ofWord type.render = .primitive type := by
  simp [ofWord, Primitive.ofText?_render]

theorem ofWord_of_ne {name : String} (h : ∀ type : Primitive, name ≠ type.render) : ofWord name = .reference name := by
  simp [ofWord, Primitive.ofText?_eq_none h]

theorem readArrays_of_ends (type : TypeExpr) (h : Ends continuesElement rest) :
    readArrays type rest = (type, rest) := by
  unfold readArrays
  split
  · have hbracket := ends_cons.1 h
    simp [continuesElement] at hbracket
  · rfl

section

variable {type : Reader TypeExpr} {fuel : Nat}

/-- A word is read as the type that it stands for. -/
theorem readElement_word {word : String} (h : isIdentifier word = true) (hrest : Ends isIdentifierPart rest) :
    readElement type fuel (word.toList ++ rest) = some (readArrays (ofWord word) rest) := by
  have hread := readWord_append h hrest
  obtain ⟨⟨c, tail, hword, hstart⟩, -⟩ := toList_of_isIdentifier h
  rw [hword, List.cons_append] at hread ⊢
  have hatom : readAtom type fuel (c :: (tail ++ rest)) = some (ofWord word, rest) := by
    rw [readAtom]
    · rw [hread]
    · exact fun tail h => ne_of_isIdentifierStart hstart (by decide) (List.cons.inj h).1
    · exact fun tail h => ne_of_isIdentifierStart hstart (by decide) (List.cons.inj h).1
    · exact fun tail h => ne_of_isIdentifierStart hstart (by decide) (List.cons.inj h).1
  rw [readElement, hatom]
  rfl

theorem readProperty_append {property : Property} (hname : isIdentifier property.name = true)
    (htype : type (property.type.render.toList ++ rest) = some (property.type, rest)) :
    readProperty type ((renderProperty property).toList ++ rest) = some (property, rest) := by
  obtain ⟨name, propertyType, optional⟩ := property
  have hread : ∀ tail c, isIdentifierPart c = false → readWord (name.toList ++ c :: tail) = (name, c :: tail) :=
    fun tail c hc => readWord_append hname (ends_cons.2 hc)
  simp only [Property.type] at htype
  cases optional
  · have hword := hread (propertyType.render.toList ++ rest) ':' (by decide)
    simp [renderProperty, readProperty, hword, htype]
  · have hword := hread (':' :: (propertyType.render.toList ++ rest)) '?' (by decide)
    simp [renderProperty, readProperty, hword, htype]

end

end TypeExpr

end ProtoClass.TypeScript
