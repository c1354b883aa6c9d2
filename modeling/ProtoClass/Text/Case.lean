import ProtoClass.Text.Blank
import ProtoClass.Text.CaseTable

/-!
# Letter case

Full case conversion: one character can become several, and a capital sigma at the end of a word has a lower-case
form of its own.  On ASCII characters `upperChar` and `lowerChar` are the conversions of the standard library.
-/

namespace ProtoClass.Text

/-- The other case of `c` by the data given, `c` itself if it has none. -/
def convertBy (expansions : List (Nat × List Nat)) (runs : List CaseRun) (c : Char) : List Char :=
  match expansions.lookup c.toNat with
  | some codes => codes.map Char.ofNat
  | none =>
    match runs.find? (·.covers c.toNat) with
    | some run => [Char.ofNat (c.toNat + run.shift).toNat]
    | none => [c]

/-- The upper-case form of a character. -/
def upperChar (c : Char) : List Char :=
  if c.toNat < 0x80 then [c.toUpper] else convertBy upperExpansions upperRuns c

/-- The lower-case form of a character that stands alone. -/
def lowerChar (c : Char) : List Char :=
  if c.toNat < 0x80 then [c.toLower] else convertBy lowerExpansions lowerRuns c

/-- Text in upper case. -/
def upper (text : List Char) : List Char :=
  text.flatMap upperChar

/-- The nearest character that is not passed over has a case. -/
def reachesCased (text : List Char) : Bool :=
  match text.dropWhile (inRanges caseIgnorableRanges) with
  | [] => false
  | c :: _ => inRanges casedRanges c

/-- Text in lower case, given what stands in front of it, reversed. -/
def lowerFrom (before : List Char) : List Char → List Char
  | [] => []
  | c :: rest =>
    let form :=
      if c = 'Σ' then if reachesCased before && !reachesCased rest then ['ς'] else ['σ']
      else lowerChar c
    form ++ lowerFrom (c :: before) rest

/-- Text in lower case.  A capital sigma that ends a word becomes a final sigma. -/
def lower (text : List Char) : List Char :=
  lowerFrom [] text

end ProtoClass.Text
