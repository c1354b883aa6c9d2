/-!
# Blank characters and lines

`isBlank` is the white space class of Unicode.  `lines` cuts a text at its line feeds, and `trimEnd` removes the
blank end of a text.
-/

namespace ProtoClass.Text

/-- A character whose code point lies in one of the ranges. -/
def inRanges (ranges : List (Nat × Nat)) (c : Char) : Bool :=
  ranges.any fun r => r.1 ≤ c.toNat && c.toNat ≤ r.2

/-- The white space characters of Unicode. -/
def blankRanges : List (Nat × Nat) := [
  (0x09, 0x0D), (0x20, 0x20), (0x85, 0x85), (0xA0, 0xA0), (0x1680, 0x1680), (0x2000, 0x200A),
  (0x2028, 0x2029), (0x202F, 0x202F), (0x205F, 0x205F), (0x3000, 0x3000)]

def isBlank (c : Char) : Bool := inRanges blankRanges c

/-- A list without the longest end whose elements all satisfy `p`. -/
def dropEndWhile {α : Type} (p : α → Bool) (l : List α) : List α :=
  (l.reverse.dropWhile p).reverse

/-- A text without its blank end. -/
def trimEnd (text : String) : String :=
  String.ofList (dropEndWhile isBlank text.toList)

/-- A text without the line feeds it starts and ends with. -/
def trimLineFeeds (text : String) : String :=
  String.ofList (dropEndWhile (· == '\n') (text.toList.dropWhile (· == '\n')))

/-- The line that has been read, in reading order.  It arrives reversed, and a carriage return in front of its line
feed is not part of it. -/
def finishedLine : List Char → String
  | '\r' :: rest => String.ofList rest.reverse
  | rest => String.ofList rest.reverse

/-- The lines of a text of which `current`, reversed, has been read since the last line feed. -/
def linesFrom (current : List Char) : List Char → List String
  | [] => if current.isEmpty then [] else [String.ofList current.reverse]
  | c :: rest =>
    if c = '\n' then finishedLine current :: linesFrom [] rest
    else linesFrom (c :: current) rest

/-- The lines of a text.  A line ends at a line feed, with a carriage return in front of it or not, and a text that
ends in a line feed has no further empty line. -/
def lines (text : String) : List String :=
  linesFrom [] text.toList

/-- Pieces written one after the other. -/
def concat (pieces : List String) : String :=
  pieces.foldr (· ++ ·) ""

/-- Pieces with a separator between neighbours. -/
def joinWith (separator : String) : List String → String
  | [] => ""
  | [piece] => piece
  | piece :: rest => piece ++ separator ++ joinWith separator rest

end ProtoClass.Text
