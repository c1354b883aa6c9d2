import ProtoClass.Yaml.Scalar

/-!
# Tokens of YAML text

`Yaml.tokens?` cuts a text into marks and scalars.  Indentation becomes start and end marks of block collections.  A
simple key is recognised at the colon after it, so its mark is inserted where the key began.  Anchors, aliases, tags
and directives are not part of the documents read here and are refused.
-/

namespace ProtoClass.Yaml

/-- A mark or a scalar. -/
inductive Token where
  | documentStart | documentEnd
  | blockSequenceStart | blockMappingStart | blockEnd
  | flowSequenceStart | flowSequenceEnd | flowMappingStart | flowMappingEnd
  | blockEntry | flowEntry | key | value
  | scalar (text : String) (plain : Bool)
  deriving DecidableEq

/-- The place where a simple key may have begun. -/
structure KeyStart where
  /-- how many tokens stand in front of the key -/
  tokens : Nat
  /-- nothing but a key can stand there -/
  required : Bool
  position : Position

/-- The state of the scanner. -/
structure Scanner where
  rest : List Char
  position : Position
  /-- the tokens so far, the last one first -/
  tokens : List Token
  /-- their number -/
  count : Nat
  /-- the columns of the open block collections, the innermost first -/
  indents : List Nat
  /-- a simple key may begin here -/
  keyAllowed : Bool
  /-- the possible key in the innermost flow collection -/
  keyStart : Option KeyStart
  /-- those of the collections around it -/
  outerKeys : List (Option KeyStart)

namespace Scanner

def start (text : List Char) : Scanner :=
  ⟨text, ⟨0, 0, 0⟩, [], 0, [], true, none, []⟩

def inFlow (s : Scanner) : Bool :=
  !s.outerKeys.isEmpty

/-- The column of the innermost block collection, -1 if none is open. -/
def indent (s : Scanner) : Int :=
  match s.indents with
  | [] => -1
  | column :: _ => column

def push (s : Scanner) (token : Token) : Scanner :=
  { s with tokens := token :: s.tokens, count := s.count + 1 }

/-- Inserts a token behind the first `index` ones. -/
def insert (s : Scanner) (index : Nat) (token : Token) : Scanner :=
  let later := s.count - index
  { s with tokens := s.tokens.take later ++ token :: s.tokens.drop later, count := s.count + 1 }

/-- Passes `n` characters of a line. -/
def skip (s : Scanner) (n : Nat) : Scanner :=
  { s with rest := s.rest.drop n, position := s.position.advance n }

/-- Opens a block collection at a column that is further in than the ones open. -/
def openBlock (s : Scanner) (column index : Nat) (token : Token) : Scanner :=
  if !s.inFlow && s.indent < column then { s.insert index token with indents := column :: s.indents } else s

/-- Closes the block collections that are further in than a column. -/
def closeBlocks (s : Scanner) (column : Int) : Scanner :=
  if s.inFlow then s
  else
    let closed := s.indents.takeWhile fun (c : Nat) => column < c
    { s with
      tokens := List.replicate closed.length .blockEnd ++ s.tokens
      count := s.count + closed.length
      indents := s.indents.drop closed.length }

/-- Gives up the possible key; a required one cannot be given up. -/
def dropKey (s : Scanner) : Option Scanner :=
  if s.keyStart.any (·.required) then none else some { s with keyStart := none }

/-- Notes that a simple key may begin here. -/
def noteKey (s : Scanner) : Option Scanner :=
  if s.keyAllowed then do
    let required := !s.inFlow && s.indent == s.position.column
    let s ← s.dropKey
    return { s with keyStart := some ⟨s.count, required, s.position⟩ }
  else some s

/-- A simple key is on one line and has at most 1024 characters. -/
private def isStale (p : Position) (key : KeyStart) : Bool :=
  key.position.line < p.line || key.position.index + 1024 < p.index

private def freshKey (p : Position) : Option KeyStart → Option (Option KeyStart)
  | none => some none
  | some key => if isStale p key then if key.required then none else some none else some (some key)

/-- Gives up the possible keys that have become too long. -/
def dropStaleKeys (s : Scanner) : Option Scanner := do
  let keyStart ← freshKey s.position s.keyStart
  let outerKeys ← s.outerKeys.mapM (freshKey s.position)
  return { s with keyStart, outerKeys }

/-- Passes blanks, comments and line breaks.  A line break outside flow collections allows a simple key. -/
private def skipBlanksFrom (inFlow keyAllowed inComment : Bool) (p : Position) :
    List Char → List Char × Position × Bool
  | [] => ([], p, keyAllowed)
  | '\r' :: '\n' :: rest => skipBlanksFrom inFlow (keyAllowed || !inFlow) false (p.nextLine 2) rest
  | c :: rest =>
    if isBreak c then skipBlanksFrom inFlow (keyAllowed || !inFlow) false (p.nextLine 1) rest
    else if inComment || c == '#' then skipBlanksFrom inFlow keyAllowed true (p.advance 1) rest
    else if c == ' ' || (c == '\t' && (inFlow || !keyAllowed)) || (c.toNat == 0xFEFF && p.index == 0) then
      skipBlanksFrom inFlow keyAllowed false (p.advance 1) rest
    else (c :: rest, p, keyAllowed)

def skipBlanks (s : Scanner) : Scanner :=
  let (rest, position, keyAllowed) := skipBlanksFrom s.inFlow s.keyAllowed false s.position s.rest
  { s with rest, position, keyAllowed }

def documentMark (s : Scanner) (token : Token) : Option Scanner := do
  let s ← (s.closeBlocks (-1)).dropKey
  return ({ s with keyAllowed := false }.skip 3).push token

def openFlow (s : Scanner) (token : Token) : Option Scanner := do
  let s ← s.noteKey
  return ({ s with keyAllowed := true, keyStart := none, outerKeys := s.keyStart :: s.outerKeys }.skip 1).push token

def closeFlow (s : Scanner) (token : Token) : Option Scanner := do
  let s ← s.dropKey
  let s :=
    match s.outerKeys with
    | [] => s
    | key :: outer => { s with keyStart := key, outerKeys := outer }
  return ({ s with keyAllowed := false }.skip 1).push token

def flowEntry (s : Scanner) : Option Scanner := do
  let s ← s.dropKey
  return ({ s with keyAllowed := true }.skip 1).push .flowEntry

def blockEntry (s : Scanner) : Option Scanner := do
  if !s.inFlow && !s.keyAllowed then none
  let s ← (s.openBlock s.position.column s.count .blockSequenceStart).dropKey
  return ({ s with keyAllowed := true }.skip 1).push .blockEntry

/-- The mark of a key that is not a simple one. -/
def keyMark (s : Scanner) : Option Scanner := do
  if !s.inFlow && !s.keyAllowed then none
  let s ← (s.openBlock s.position.column s.count .blockMappingStart).dropKey
  return ({ s with keyAllowed := !s.inFlow }.skip 1).push .key

/-- The colon in front of a value.  If a simple key ends here, its mark goes where it began. -/
def valueMark (s : Scanner) : Option Scanner :=
  match s.keyStart with
  | some key =>
    let s := (s.insert key.tokens .key).openBlock key.position.column key.tokens .blockMappingStart
    some (({ s with keyStart := none, keyAllowed := false }.skip 1).push .value)
  | none => do
    if !s.inFlow && !s.keyAllowed then none
    let s := s.openBlock s.position.column s.count .blockMappingStart
    return ({ s with keyAllowed := !s.inFlow }.skip 1).push .value

/-- Takes over a scalar that has been read. -/
private def take (s : Scanner) (plain keyAllowed : Bool) (scalar : Scanned) : Scanner :=
  { s with rest := scalar.rest, position := scalar.position, keyAllowed }.push
    (.scalar (String.ofList scalar.text) plain)

def blockScalar (s : Scanner) (literal : Bool) : Option Scanner := do
  let s ← s.dropKey
  let s := s.skip 1
  let scalar ← Yaml.blockScalar literal s.indent s.position s.rest
  return s.take false true scalar

def singleQuoted (s : Scanner) : Option Scanner := do
  let s ← s.noteKey
  let s := s.skip 1
  let scalar ← Yaml.singleQuoted s.position [] {} s.rest
  return s.take false false scalar

def doubleQuoted (s : Scanner) : Option Scanner := do
  let s ← s.noteKey
  let s := s.skip 1
  let scalar ← Yaml.doubleQuoted s.position [] {} 0 0 s.rest
  return s.take false false scalar

def plain (s : Scanner) : Option Scanner := do
  let s ← s.noteKey
  let scalar ← Yaml.plain s.inFlow (s.indent + 1).toNat s.position [] {} s.rest
  return s.take true scalar.passedBreak scalar

/-- A character that cannot begin a plain scalar. -/
private def isIndicator (c : Char) : Bool :=
  "-?:,[]\x7b\x7d#&*!|>'\"%@\x60".toList.contains c

/-- A plain scalar can begin here. -/
def beginsPlain (inFlow : Bool) (c : Char) (rest : List Char) : Bool :=
  !(isSpacing c || isBreak c || isIndicator c)
    || (c == '-' && !rest.head?.all isSpacing)
    || (!inFlow && (c == '?' || c == ':') && !endsWord rest)

/-- Reads the token that begins at a character. -/
def token (s : Scanner) (c : Char) (rest : List Char) : Option Scanner :=
  if s.position.column == 0 && c == '%' then none
  else if s.position.column == 0 && isDocumentMark (c :: rest) then
    s.documentMark (if c == '-' then .documentStart else .documentEnd)
  else if c == '[' then s.openFlow .flowSequenceStart
  else if c == '\x7b' then s.openFlow .flowMappingStart
  else if c == ']' then s.closeFlow .flowSequenceEnd
  else if c == '\x7d' then s.closeFlow .flowMappingEnd
  else if c == ',' then s.flowEntry
  else if c == '-' && endsWord rest then s.blockEntry
  else if c == '?' && (s.inFlow || endsWord rest) then s.keyMark
  else if c == ':' && (s.inFlow || endsWord rest) then s.valueMark
  else if c == '|' && !s.inFlow then s.blockScalar true
  else if c == '>' && !s.inFlow then s.blockScalar false
  else if c == '\'' then s.singleQuoted
  else if c == '"' then s.doubleQuoted
  else if beginsPlain s.inFlow c rest then s.plain
  else none

/-- Closes what is open at the end of the text. -/
def finish (s : Scanner) : Option (List Token) := do
  let s ← (s.closeBlocks (-1)).dropKey
  return s.tokens.reverse

/-- Reads tokens to the end of the text.  Every token takes a character. -/
def run : Nat → Scanner → Option (List Token)
  | 0, _ => none
  | fuel + 1, s => do
    let s ← s.skipBlanks.dropStaleKeys
    let s := s.closeBlocks s.position.column
    match s.rest with
    | [] => s.finish
    | c :: rest =>
      let s ← s.token c rest
      run fuel s

end Scanner

/-- The tokens of a text. -/
def tokens? (text : String) : Option (List Token) :=
  let chars := text.toList
  if chars.all isPrintable then (Scanner.start chars).run (chars.length + 1) else none

end ProtoClass.Yaml
