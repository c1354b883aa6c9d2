import ProtoClass.Yaml.Token

/-!
# YAML documents

A document is a tree of scalars, sequences and mappings.  `Yaml.parse?` reads the only document of a text; a text
without any document holds an empty scalar.
-/

namespace ProtoClass.Yaml

/-- A node of a document. -/
inductive Node where
  | scalar (text : String) (plain : Bool)
  | sequence (items : List Node)
  | mapping (pairs : List (Node × Node))

namespace Node

/-- What stands where nothing is written. -/
def empty : Node := .scalar "" true

/-- The tokens at which an entry of a block collection, or the document, ends. -/
private def endsEntry : List Token → Bool
  | .key :: _ | .value :: _ | .blockEnd :: _ => true
  | _ => false

private def endsSequenceEntry : List Token → Bool
  | .blockEntry :: _ | .blockEnd :: _ => true
  | _ => false

private def endsFlowEntry (closing : Token) : List Token → Bool
  | [] => false
  | token :: _ => token == .flowEntry || token == closing

mutual

/-- A node.  Block collections are read only if `block` says so, and a sequence that is not indented only as the value
of a mapping. -/
private def node : Nat → (block indentless : Bool) → List Token → Option (Node × List Token)
  | 0, _, _, _ => none
  | fuel + 1, block, indentless, tokens =>
    match tokens with
    | .scalar text plain :: rest => some (.scalar text plain, rest)
    | .flowSequenceStart :: rest => do
      let (items, rest) ← flowItems fuel true rest
      return (.sequence items, rest)
    | .flowMappingStart :: rest => do
      let (pairs, rest) ← flowPairs fuel true rest
      return (.mapping pairs, rest)
    | .blockSequenceStart :: rest =>
      if block then do
        let (items, rest) ← blockItems fuel rest
        return (.sequence items, rest)
      else none
    | .blockMappingStart :: rest =>
      if block then do
        let (pairs, rest) ← blockPairs fuel rest
        return (.mapping pairs, rest)
      else none
    | .blockEntry :: _ =>
      if indentless then do
        let (items, rest) ← indentlessItems fuel tokens
        return (.sequence items, rest)
      else none
    | _ => none

/-- The entries of a block sequence up to its end. -/
private def blockItems : Nat → List Token → Option (List Node × List Token)
  | 0, _ => none
  | fuel + 1, tokens =>
    match tokens with
    | .blockEntry :: rest => do
      let (item, rest) ← if endsSequenceEntry rest then some (empty, rest) else node fuel true false rest
      let (items, rest) ← blockItems fuel rest
      return (item :: items, rest)
    | .blockEnd :: rest => some ([], rest)
    | _ => none

/-- The entries of a sequence that is not indented. -/
private def indentlessItems : Nat → List Token → Option (List Node × List Token)
  | 0, _ => none
  | fuel + 1, tokens =>
    match tokens with
    | .blockEntry :: rest => do
      let (item, rest) ←
        if endsSequenceEntry rest || endsEntry rest then some (empty, rest) else node fuel true false rest
      let (items, rest) ← indentlessItems fuel rest
      return (item :: items, rest)
    | _ => some ([], tokens)

/-- The value of a mapping entry in a block. -/
private def blockValue : Nat → List Token → Option (Node × List Token)
  | 0, _ => none
  | fuel + 1, tokens =>
    match tokens with
    | .value :: rest => if endsEntry rest then some (empty, rest) else node fuel true true rest
    | _ => some (empty, tokens)

/-- The entries of a block mapping up to its end. -/
private def blockPairs : Nat → List Token → Option (List (Node × Node) × List Token)
  | 0, _ => none
  | fuel + 1, tokens =>
    match tokens with
    | .key :: rest => do
      let (key, rest) ← if endsEntry rest then some (empty, rest) else node fuel true true rest
      let (value, rest) ← blockValue fuel rest
      let (pairs, rest) ← blockPairs fuel rest
      return ((key, value) :: pairs, rest)
    | .blockEnd :: rest => some ([], rest)
    | _ => none

/-- The value of a mapping entry in a flow collection. -/
private def flowValue : Nat → Token → List Token → Option (Node × List Token)
  | 0, _, _ => none
  | fuel + 1, closing, tokens =>
    match tokens with
    | .value :: rest => if endsFlowEntry closing rest then some (empty, rest) else node fuel false false rest
    | _ => some (empty, tokens)

/-- The entries of a flow sequence up to its end.  An entry with a key is a mapping of one pair. -/
private def flowItems : Nat → (first : Bool) → List Token → Option (List Node × List Token)
  | 0, _, _ => none
  | fuel + 1, first, tokens =>
    match tokens with
    | .flowSequenceEnd :: rest => some ([], rest)
    | _ => do
      let tokens ←
        if first then some tokens
        else
          match tokens with
          | .flowEntry :: rest => some rest
          | _ => none
      match tokens with
      | .flowSequenceEnd :: rest => some ([], rest)
      | .key :: rest =>
        -- where a marked key is missing, the mark after it is passed over
        let (key, rest) ←
          if endsFlowEntry .flowSequenceEnd rest || rest.head? == some .value then some (empty, rest.drop 1)
          else node fuel false false rest
        let (value, rest) ← flowValue fuel .flowSequenceEnd rest
        let (items, rest) ← flowItems fuel false rest
        return (.mapping [(key, value)] :: items, rest)
      | _ =>
        let (item, rest) ← node fuel false false tokens
        let (items, rest) ← flowItems fuel false rest
        return (item :: items, rest)

/-- The entries of a flow mapping up to its end. -/
private def flowPairs : Nat → (first : Bool) → List Token → Option (List (Node × Node) × List Token)
  | 0, _, _ => none
  | fuel + 1, first, tokens =>
    match tokens with
    | .flowMappingEnd :: rest => some ([], rest)
    | _ => do
      let tokens ←
        if first then some tokens
        else
          match tokens with
          | .flowEntry :: rest => some rest
          | _ => none
      match tokens with
      | .flowMappingEnd :: rest => some ([], rest)
      | .key :: rest =>
        let (key, rest) ←
          if endsFlowEntry .flowMappingEnd rest || rest.head? == some .value then some (empty, rest)
          else node fuel false false rest
        let (value, rest) ← flowValue fuel .flowMappingEnd rest
        let (pairs, rest) ← flowPairs fuel false rest
        return ((key, value) :: pairs, rest)
      | _ =>
        let (key, rest) ← node fuel false false tokens
        let (pairs, rest) ← flowPairs fuel false rest
        return ((key, empty) :: pairs, rest)

end

/-- The only document of a sequence of tokens.  End marks may follow it, another document may not. -/
def ofTokens? (tokens : List Token) : Option Node := do
  let fuel := 2 * tokens.length + 2
  let (document, rest) ←
    match tokens with
    | [] => some (empty, [])
    | [.documentStart] => some (empty, [])
    | .documentStart :: .documentStart :: rest => some (empty, .documentStart :: rest)
    | .documentStart :: .documentEnd :: rest => some (empty, .documentEnd :: rest)
    | .documentStart :: rest => node fuel true false rest
    | _ => node fuel true false tokens
  if rest.all (· == .documentEnd) then some document else none

end Node

/-- The document of a text. -/
def parse? (text : String) : Option Node :=
  (tokens? text).bind Node.ofTokens?

end ProtoClass.Yaml
