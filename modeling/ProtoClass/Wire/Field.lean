/-!
# The binary message format

A binary message is a sequence of fields, each a number with a value.  `Wire.fields` reads it; the content of a
length-delimited field is left as bytes for whoever knows what it holds.
-/

namespace ProtoClass.Wire

/-- The value of a field. -/
inductive Value where
  | varint (value : Nat)
  | fixed64
  | bytes (content : List UInt8)
  /-- a group, whose content nobody reads -/
  | group
  | fixed32

/-- A field of a binary message. -/
structure Field where
  number : Nat
  value : Value

/-- Reads a base-128 number of at most `count` bytes, the least significant first.  With ten bytes the last one has a
single bit to give. -/
def readVarint : Nat → List UInt8 → Option (Nat × List UInt8)
  | 0, _ => none
  | _ + 1, [] => none
  | count + 1, byte :: rest =>
    if byte < 0x80 then
      if count = 0 && byte > 1 then none else some (byte.toNat, rest)
    else
      (readVarint count rest).map fun (high, rest) => (byte.toNat - 128 + 128 * high, rest)

/-- A number of up to 64 bits. -/
def varint (bytes : List UInt8) : Option (Nat × List UInt8) :=
  readVarint 10 bytes

/-- The bytes after the next `count` ones. -/
def skipBytes (count : Nat) (bytes : List UInt8) : Option (List UInt8) :=
  if count ≤ bytes.length then some (bytes.drop count) else none

/-- A field number with the code of the form its value has. -/
def key (bytes : List UInt8) : Option (Nat × Nat × List UInt8) := do
  let (key, rest) ← varint bytes
  if key < UInt32.size && key / 8 ≠ 0 then some (key / 8, key % 8, rest) else none

/-- Passes over the fields of group `number` up to its end mark.  Groups inside it may be nested `depth` levels. -/
def skipGroup : (fuel depth number : Nat) → List UInt8 → Option (List UInt8)
  | 0, _, _, _ => none
  | fuel + 1, depth, number, bytes => do
    let (inner, form, rest) ← key bytes
    if form = 4 then
      if inner = number then some rest else none
    else
      match depth with
      | 0 => none
      | depth + 1 =>
        let rest ←
          match form with
          | 0 => (varint rest).map (·.2)
          | 1 => skipBytes 8 rest
          | 2 => (varint rest).bind fun (length, rest) => skipBytes length rest
          | 3 => skipGroup fuel depth inner rest
          | 5 => skipBytes 4 rest
          | _ => none
        skipGroup fuel (depth + 1) number rest

/-- The next field of a message in which `depth` more levels may be opened. -/
def field (depth : Nat) (bytes : List UInt8) : Option (Field × List UInt8) := do
  let (number, form, rest) ← key bytes
  match form with
  | 0 =>
    let (value, rest) ← varint rest
    return (⟨number, .varint value⟩, rest)
  | 1 => return (⟨number, .fixed64⟩, ← skipBytes 8 rest)
  | 2 =>
    let (length, rest) ← varint rest
    let after ← skipBytes length rest
    return (⟨number, .bytes (rest.take length)⟩, after)
  | 3 =>
    match depth with
    | 0 => none
    | depth + 1 => return (⟨number, .group⟩, ← skipGroup rest.length depth number rest)
  | 5 => return (⟨number, .fixed32⟩, ← skipBytes 4 rest)
  | _ => none

private def fieldsFrom (depth : Nat) : Nat → List UInt8 → Option (List Field)
  | 0, bytes => if bytes.isEmpty then some [] else none
  | fuel + 1, bytes =>
    if bytes.isEmpty then some []
    else do
      let (first, rest) ← field depth bytes
      let others ← fieldsFrom depth fuel rest
      return first :: others

/-- The fields of a message in which `depth` more levels may be opened.  Every field takes a byte at least. -/
def fields (depth : Nat) (bytes : List UInt8) : Option (List Field) :=
  fieldsFrom depth bytes.length bytes

private def varintsFrom : Nat → List UInt8 → Option (List Nat)
  | 0, bytes => if bytes.isEmpty then some [] else none
  | fuel + 1, bytes =>
    if bytes.isEmpty then some []
    else do
      let (first, rest) ← varint bytes
      let others ← varintsFrom fuel rest
      return first :: others

/-- The numbers packed into a length-delimited field. -/
def packed (bytes : List UInt8) : Option (List Nat) :=
  varintsFrom bytes.length bytes

/-- The text in a length-delimited field. -/
def text? (bytes : List UInt8) : Option String :=
  String.fromUTF8? ⟨bytes.toArray⟩

/-- The 32-bit integer in the low bits of a number. -/
def int32 (value : Nat) : Int32 :=
  Int32.ofInt value

end ProtoClass.Wire
