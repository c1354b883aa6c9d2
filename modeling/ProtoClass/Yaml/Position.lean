/-!
# Characters and positions of YAML text

Which characters are blanks and line breaks, where in a text a reader stands, and what the blanks between two words
of a scalar mean.
-/

namespace ProtoClass.Yaml

def isSpacing (c : Char) : Bool :=
  c == ' ' || c == '\t'

/-- The characters that end a line. -/
def isBreak (c : Char) : Bool :=
  c == '\n' || c == '\r' || c.toNat == 0x85 || c.toNat == 0x2028 || c.toNat == 0x2029

/-- The characters a text may contain. -/
def isPrintable (c : Char) : Bool :=
  let n := c.toNat
  n == 0x09 || n == 0x0A || n == 0x0D || (0x20 ≤ n && n ≤ 0x7E) || n == 0x85 || (0xA0 ≤ n && n ≤ 0xD7FF)
    || (0xE000 ≤ n && n ≤ 0xFFFD) || 0x10000 ≤ n

/-- A blank, a line break or the end comes next. -/
def endsWord : List Char → Bool
  | [] => true
  | c :: _ => isSpacing c || isBreak c

/-- The start of a line that separates documents. -/
def isDocumentMark : List Char → Bool
  | '-' :: '-' :: '-' :: rest => endsWord rest
  | '.' :: '.' :: '.' :: rest => endsWord rest
  | _ => false

/-- A place in a text. -/
structure Position where
  index : Nat
  line : Nat
  column : Nat
  deriving DecidableEq

namespace Position

/-- The place after `n` characters of the same line. -/
def advance (p : Position) (n : Nat) : Position :=
  ⟨p.index + n, p.line, p.column + n⟩

/-- The place after a line break of `n` characters. -/
def nextLine (p : Position) (n : Nat) : Position :=
  ⟨p.index + n, p.line + 1, 0⟩

end Position

/-- The line break at the front of a text: its length in characters, what it stands for, and the text after it.  The
line separators of Unicode stand for themselves, every other break for a line feed. -/
def lineBreak? : List Char → Option (Nat × Char × List Char)
  | '\r' :: '\n' :: rest => some (2, '\n', rest)
  | c :: rest =>
    if isBreak c then some (1, if c.toNat = 0x2028 || c.toNat = 0x2029 then c else '\n', rest) else none
  | [] => none

/-- The blanks between two words of a scalar. -/
structure Gap where
  /-- the blanks in front of the first line break -/
  spaces : List Char := []
  /-- the gap extends over a line break -/
  broken : Bool := false
  /-- the first line break -/
  first : List Char := []
  /-- the other line breaks -/
  more : List Char := []

namespace Gap

def isEmpty (gap : Gap) : Bool :=
  gap.spaces.isEmpty && !gap.broken

def pushSpace (gap : Gap) (c : Char) : Gap :=
  if gap.broken then gap else { gap with spaces := gap.spaces ++ [c] }

def pushBreak (gap : Gap) (c : Char) : Gap :=
  if gap.broken then { gap with more := gap.more ++ [c] } else { broken := true, first := [c] }

/-- A line break that is not part of the scalar. -/
def escaped : Gap := { broken := true }

/-- What a gap contributes to the scalar: blanks stay, a single line break becomes a blank, and of several line feeds
all but the first stay. -/
def folded (gap : Gap) : List Char :=
  if !gap.broken then gap.spaces
  else if gap.first = ['\n'] then if gap.more.isEmpty then [' '] else gap.more
  else gap.first ++ gap.more

end Gap

end ProtoClass.Yaml
