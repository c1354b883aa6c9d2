import ProtoClass.Text.Blank
import ProtoClass.Text.ClusterTable

/-!
# Grapheme clusters

`clusters` cuts a text into user-perceived characters: a base with its marks, a Hangul syllable, a pair of regional
indicators, a joined sequence of pictographs, a conjunct of consonants.
-/

namespace ProtoClass.Text

/-- What a character does to the cluster boundaries beside it. -/
inductive BreakClass where
  | carriageReturn | lineFeed | control
  | extend | joiner | spacingMark | prepend
  | regional
  | hangulLead | hangulVowel | hangulTrail | hangulOpen | hangulClosed
  | other
  deriving DecidableEq

/-- The class of a character; below the ASCII limit there are only controls and plain characters. -/
def breakClass (c : Char) : BreakClass :=
  let n := c.toNat
  if n = 0x0D then .carriageReturn
  else if n = 0x0A then .lineFeed
  else if n < 0x20 || n = 0x7F then .control
  else if n < 0x80 then .other
  else if n = 0x200D then .joiner
  else if 0xAC00 ≤ n && n ≤ 0xD7A3 then if (n - 0xAC00) % 28 = 0 then .hangulOpen else .hangulClosed
  else if 0x1F1E6 ≤ n && n ≤ 0x1F1FF then .regional
  else if inRanges extendRanges c then .extend
  else if inRanges spacingMarkRanges c then .spacingMark
  else if inRanges controlRanges c then .control
  else if inRanges prependRanges c then .prepend
  else if inRanges hangulLeadRanges c then .hangulLead
  else if inRanges hangulVowelRanges c then .hangulVowel
  else if inRanges hangulTrailRanges c then .hangulTrail
  else .other

def isPictograph (c : Char) : Bool := 0x80 ≤ c.toNat && inRanges pictographRanges c

def isConjunctConsonant (c : Char) : Bool := 0x80 ≤ c.toNat && inRanges conjunctConsonantRanges c

def isConjunctLinker (c : Char) : Bool := inRanges conjunctLinkerRanges c

/-- What the text read so far ends in. -/
structure BreakContext where
  last : BreakClass
  /-- a pictograph and its marks -/
  pictograph : Bool
  /-- a pictograph, its marks and a joiner -/
  joined : Bool
  /-- an odd number of regional indicators -/
  oddRegional : Bool
  /-- a consonant and its marks -/
  consonant : Bool
  /-- a consonant and its marks, a linker among them -/
  linked : Bool

/-- The context before any character: everything starts a new cluster. -/
def BreakContext.start : BreakContext := ⟨.control, false, false, false, false, false⟩

/-- The context after one more character. -/
def BreakContext.step (context : BreakContext) (c : Char) : BreakContext :=
  let cls := breakClass c
  let marks := cls = .extend
  -- a zero width non-joiner keeps consonants apart
  let conjunctMark := (marks || cls = .joiner) && c.toNat != 0x200C
  let base := isConjunctConsonant c
  { last := cls
    pictograph := isPictograph c || (context.pictograph && marks)
    joined := context.pictograph && cls = .joiner
    oddRegional := cls = .regional && !context.oddRegional
    consonant := base || (context.consonant && conjunctMark)
    linked := !base && context.consonant && conjunctMark && (context.linked || isConjunctLinker c) }

/-- No cluster ends between the text of `context` and `c`. -/
def BreakContext.joins (context : BreakContext) (c : Char) : Bool :=
  match context.last, breakClass c with
  | .carriageReturn, .lineFeed => true
  | .carriageReturn, _ | .lineFeed, _ | .control, _ => false
  | _, .carriageReturn | _, .lineFeed | _, .control => false
  | .hangulLead, .hangulLead | .hangulLead, .hangulVowel => true
  | .hangulLead, .hangulOpen | .hangulLead, .hangulClosed => true
  | .hangulOpen, .hangulVowel | .hangulOpen, .hangulTrail => true
  | .hangulVowel, .hangulVowel | .hangulVowel, .hangulTrail => true
  | .hangulClosed, .hangulTrail | .hangulTrail, .hangulTrail => true
  | _, .extend | _, .joiner | _, .spacingMark => true
  | .prepend, _ => true
  | .regional, .regional => context.oddRegional
  | _, _ => (context.joined && isPictograph c) || (context.linked && isConjunctConsonant c)

/-- The clusters of a text, of which `current`, reversed, has been read since the last boundary. -/
def clustersFrom (context : BreakContext) (current : List Char) : List Char → List (List Char)
  | [] => if current.isEmpty then [] else [current.reverse]
  | c :: rest =>
    if current.isEmpty || context.joins c then clustersFrom (context.step c) (c :: current) rest
    else current.reverse :: clustersFrom (context.step c) [c] rest

/-- The extended grapheme clusters of a text, in order. -/
def clusters (text : List Char) : List (List Char) :=
  clustersFrom .start [] text

end ProtoClass.Text
