import ProtoClass.Json.Reader
import ProtoClass.Yaml.Position

/-!
# Scalars of YAML text

Readers for the four styles: plain, single-quoted, double-quoted and block scalars.  Each is given the text from the
scalar on and returns what the scalar stands for, the text after it and the place where that begins.
-/

namespace ProtoClass.Yaml

/-- A scalar that has been read. -/
structure Scanned where
  text : List Char
  rest : List Char
  position : Position
  /-- the reader has passed a line break after the scalar -/
  passedBreak : Bool

/-- The characters that structure flow collections. -/
def isFlowMark (c : Char) : Bool :=
  c == ',' || c == '[' || c == ']' || c == '\x7b' || c == '\x7d'

/-- A colon that ends a plain scalar, or a mark that does so inside a flow collection. -/
private def endsPlain (inFlow : Bool) (c : Char) (rest : List Char) : Bool :=
  (c == ':' && endsWord rest) || (inFlow && isFlowMark c)

/-- A colon that a plain scalar must not contain inside a flow collection. -/
private def strayColon (inFlow : Bool) (c : Char) (rest : List Char) : Bool :=
  inFlow && c == ':' && rest.head?.any fun d => isFlowMark d || d == '?'

/-- The rest of a plain scalar.  Its lines are indented by `indent` at least; `text` holds what has been read, the last
character first, and `gap` the blanks since then. -/
def plain (inFlow : Bool) (indent : Nat) (p : Position) (text : List Char) (gap : Gap) :
    List Char → Option Scanned
  | [] => some ⟨text.reverse, [], p, gap.broken⟩
  | '\r' :: '\n' :: rest => plain inFlow indent (p.nextLine 2) text (gap.pushBreak '\n') rest
  | c :: rest =>
    if isSpacing c then
      if gap.broken && p.column < indent && c == '\t' then none
      else plain inFlow indent (p.advance 1) text (gap.pushSpace c) rest
    else
      match lineBreak? [c] with
      | some (_, char, _) => plain inFlow indent (p.nextLine 1) text (gap.pushBreak char) rest
      | none =>
        let newWord := !gap.isEmpty
        if newWord && ((!inFlow && p.column < indent) || (p.column == 0 && isDocumentMark (c :: rest)) || c == '#')
        then some ⟨text.reverse, c :: rest, p, gap.broken⟩
        else if strayColon inFlow c rest then none
        else if endsPlain inFlow c rest then some ⟨text.reverse, c :: rest, p, gap.broken⟩
        else plain inFlow indent (p.advance 1) (c :: (gap.folded.reverse ++ text)) {} rest

/-- The rest of a single-quoted scalar, after the opening quote. -/
def singleQuoted (p : Position) (text : List Char) (gap : Gap) : List Char → Option Scanned
  | [] => none
  | '\r' :: '\n' :: rest => singleQuoted (p.nextLine 2) text (gap.pushBreak '\n') rest
  | '\'' :: '\'' :: rest => singleQuoted (p.advance 2) ('\'' :: (gap.folded.reverse ++ text)) {} rest
  | c :: rest =>
    if isSpacing c then singleQuoted (p.advance 1) text (gap.pushSpace c) rest
    else
      match lineBreak? [c] with
      | some (_, char, _) => singleQuoted (p.nextLine 1) text (gap.pushBreak char) rest
      | none =>
        if p.column == 0 && isDocumentMark (c :: rest) then none
        else if c = '\'' then some ⟨(gap.folded.reverse ++ text).reverse, rest, p.advance 1, false⟩
        else singleQuoted (p.advance 1) (c :: (gap.folded.reverse ++ text)) {} rest

/-- The character of a one-letter escape. -/
private def letterEscape? (c : Char) : Option Char :=
  match c with
  | '0' => some (Char.ofNat 0x00)
  | 'a' => some (Char.ofNat 0x07)
  | 'b' => some (Char.ofNat 0x08)
  | 't' => some '\t'
  | '\t' => some '\t'
  | 'n' => some '\n'
  | 'v' => some (Char.ofNat 0x0B)
  | 'f' => some (Char.ofNat 0x0C)
  | 'r' => some '\r'
  | 'e' => some (Char.ofNat 0x1B)
  | ' ' => some ' '
  | '"' => some '"'
  | '/' => some '/'
  | '\\' => some '\\'
  | 'N' => some (Char.ofNat 0x85)
  | '_' => some (Char.ofNat 0xA0)
  | 'L' => some (Char.ofNat 0x2028)
  | 'P' => some (Char.ofNat 0x2029)
  | _ => none

/-- The number of hexadecimal digits after an escape letter. -/
private def digitCount (c : Char) : Nat :=
  if c = 'x' then 2 else if c = 'u' then 4 else if c = 'U' then 8 else 0

/-- The character with a code point, if it is one. -/
private def charOf? (n : Nat) : Option Char :=
  if n < 0xD800 || (0xDFFF < n && n ≤ 0x10FFFF) then some (Char.ofNat n) else none

/-- The rest of a double-quoted scalar, after the opening quote.  The count is how many digits of an escape are still
to come; `code` is the value of those that have been read. -/
def doubleQuoted (p : Position) (text : List Char) (gap : Gap) (digits code : Nat) : List Char → Option Scanned
  | [] => none
  | c :: rest =>
    if digits != 0 then
      match Json.hexDigit? c with
      | none => none
      | some d =>
        let code := 16 * code + d
        if digits = 1 then
          match charOf? code with
          | none => none
          | some char => doubleQuoted (p.advance 1) (char :: text) {} 0 0 rest
        else doubleQuoted (p.advance 1) text gap (digits - 1) code rest
    else if isSpacing c then doubleQuoted (p.advance 1) text (gap.pushSpace c) 0 0 rest
    else if c = '\r' && rest.head? == some '\n' then
      -- the line feed after it is the break
      doubleQuoted ⟨p.index + 1, p.line, p.column⟩ text gap 0 0 rest
    else
      match lineBreak? [c] with
      | some (_, char, _) => doubleQuoted (p.nextLine 1) text (gap.pushBreak char) 0 0 rest
      | none =>
        if p.column == 0 && isDocumentMark (c :: rest) then none
        else
          let text := gap.folded.reverse ++ text
          if c = '"' then some ⟨text.reverse, rest, p.advance 1, false⟩
          else if c = '\\' then
            match rest with
            | [] => none
            | e :: after =>
              if e = '\r' && after.head? == some '\n' then
                match after with
                | [] => none
                | _ :: after => doubleQuoted (p.nextLine 3) text Gap.escaped 0 0 after
              else if isBreak e then doubleQuoted (p.nextLine 2) text Gap.escaped 0 0 after
              else
                match letterEscape? e with
                | some char => doubleQuoted (p.advance 2) (char :: text) {} 0 0 after
                | none =>
                  if digitCount e = 0 then none
                  else doubleQuoted (p.advance 2) text {} (digitCount e) 0 after
          else doubleQuoted (p.advance 1) (c :: text) {} 0 0 rest

/-! ### Block scalars -/

/-- What happens to the line breaks at the end of a block scalar. -/
inductive Chomping where
  | strip | clip | keep
  deriving DecidableEq

private def chomping? (c : Char) : Option Chomping :=
  if c = '+' then some .keep else if c = '-' then some .strip else none

private def indentDigit? (c : Char) : Option Nat :=
  if c.isDigit then some (c.toNat - '0'.toNat) else none

/-- The indicators after the mark of a block scalar: chomping, indentation (0 if not given) and the text after them.
An indentation of 0 cannot be given. -/
private def blockHeader (text : List Char) : Option (Chomping × Nat × List Char) :=
  match text with
  | a :: rest =>
    match chomping? a, indentDigit? a with
    | some chomping, _ =>
      match rest with
      | b :: after =>
        match indentDigit? b with
        | some 0 => none
        | some n => some (chomping, n, after)
        | none => some (chomping, 0, rest)
      | [] => some (chomping, 0, [])
    | none, some 0 => none
    | none, some n =>
      match rest with
      | b :: after =>
        match chomping? b with
        | some chomping => some (chomping, n, after)
        | none => some (.clip, n, rest)
      | [] => some (.clip, n, [])
    | none, none => some (.clip, 0, text)
  | [] => some (.clip, 0, [])

/-- Passes blanks and a comment up to the end of the line; nothing else may stand there. -/
private def restOfLine (text : List Char) : Option (List Char) :=
  match text.dropWhile isSpacing with
  | '#' :: rest => some (rest.dropWhile fun c => !isBreak c)
  | rest => if rest.head?.all isBreak then some rest else none

/-- The line breaks in front of the next line of a block scalar. -/
private structure Breaks where
  breaks : List Char
  /-- the largest column that a line reached -/
  column : Nat
  rest : List Char
  position : Position

/-- Passes empty lines and the indentation of the next line, up to column `indent`, or as far as it goes if `indent`
is 0. -/
private def blockBreaks (indent : Nat) (p : Position) (column : Nat) (breaks : List Char) :
    List Char → Option Breaks
  | [] => some ⟨breaks.reverse, max column p.column, [], p⟩
  | '\r' :: '\n' :: rest => blockBreaks indent (p.nextLine 2) (max column p.column) ('\n' :: breaks) rest
  | c :: rest =>
    let indenting := indent == 0 || p.column < indent
    if indenting && c == ' ' then blockBreaks indent (p.advance 1) column breaks rest
    else if indenting && c == '\t' then none
    else
      match lineBreak? [c] with
      | some (_, char, _) => blockBreaks indent (p.nextLine 1) (max column p.column) (char :: breaks) rest
      | none => some ⟨breaks.reverse, max column p.column, c :: rest, p⟩

/-- A block scalar while its lines are read. -/
private structure Block where
  /-- the lines so far, the last character first -/
  text : List Char
  /-- the break after the last line -/
  lineEnd : List Char
  /-- the breaks after that -/
  breaks : List Char
  /-- the last line starts with a blank -/
  blankStart : Bool
  rest : List Char
  position : Position

/-- Reads the lines of a block scalar.  In a folded one the break between two lines that do not start with a blank
becomes a blank. -/
private def blockLines (literal : Bool) (indent : Nat) : Nat → Block → Option Block
  | 0, block => some block
  | fuel + 1, block =>
    match block.rest with
    | [] => some block
    | c :: _ =>
      if block.position.column != indent then some block
      else do
        let blankStart := isSpacing c
        let joint :=
          if !literal && block.lineEnd == ['\n'] && !block.blankStart && !blankStart then
            if block.breaks.isEmpty then [' '] else []
          else block.lineEnd
        let line := block.rest.takeWhile fun c => !isBreak c
        let after := block.rest.dropWhile fun c => !isBreak c
        let p := block.position.advance line.length
        let text := line.reverse ++ (block.breaks.reverse ++ (joint.reverse ++ block.text))
        let (lineEnd, rest, p) :=
          match lineBreak? after with
          | some (n, char, rest) => ([char], rest, p.nextLine n)
          | none => ([], after, p)
        let next ← blockBreaks indent p 0 [] rest
        blockLines literal indent fuel ⟨text, lineEnd, next.breaks, blankStart, next.rest, next.position⟩

/-- A block scalar, after its mark.  `parent` is the indentation of the block around it, -1 if there is none. -/
def blockScalar (literal : Bool) (parent : Int) (p : Position) (text : List Char) : Option Scanned := do
  let (chomping, given, rest) ← blockHeader text
  let rest ← restOfLine rest
  let start := p.advance (text.length - rest.length)
  let (rest, start) :=
    match lineBreak? rest with
    | some (n, _, rest) => (rest, start.nextLine n)
    | none => (rest, start)
  let least := (parent + 1).toNat
  let known := if given = 0 then 0 else if 0 ≤ parent then parent.toNat + given else given
  let first ← blockBreaks known start 0 [] rest
  let indent := if known = 0 then max (max first.column least) 1 else known
  let block ← blockLines literal indent (rest.length + 1) ⟨[], [], first.breaks, false, first.rest, first.position⟩
  let tail :=
    match chomping with
    | .strip => []
    | .clip => block.lineEnd
    | .keep => block.lineEnd ++ block.breaks
  return ⟨block.text.reverse ++ tail, block.rest, block.position, false⟩

end ProtoClass.Yaml
