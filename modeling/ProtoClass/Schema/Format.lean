import ProtoClass.Json.Value

/-!
# Document formats

Schemas and settings are read from documents of several formats.  A `Format` says how the values of one format are
looked at: which of them are texts, flags, integers, lists, records.  `Json.format` is the one of JSON.
-/

namespace ProtoClass

/-- The fields of a record: by name, or by position in the order of their declaration. -/
inductive Record (ν : Type) where
  | named (members : List (String × ν))
  | positional (values : List ν)

/-- The values given for the fields called `names`.  Members with other names are ignored; a record that names one of
the fields twice, or has more values than fields, is refused. -/
def Record.slots {ν : Type} (names : List String) : Record ν → Option (List (Option ν))
  | .named members =>
    names.mapM fun name =>
      match members.filter (·.1 == name) with
      | [] => some none
      | [member] => some (some member.2)
      | _ => none
  | .positional values =>
    if values.length ≤ names.length then
      some (values.map some ++ List.replicate (names.length - values.length) none)
    else none

/-- How the values of a document format are looked at. -/
structure Format (ν : Type) where
  text? : ν → Option String
  flag? : ν → Option Bool
  natural? : ν → Option Nat
  integer? : ν → Option Int
  /-- the value stands for "nothing given" where something optional is expected -/
  isAbsent : ν → Bool
  items? : ν → Option (List ν)
  record? : ν → Option (Record ν)
  /-- a word out of a fixed list, with so many levels left to go down -/
  word? : Nat → ν → Option String
  /-- one tag with the value under it -/
  variant? : ν → Option (String × ν)
  /-- how many levels of lists and records may be open at once -/
  depth : Nat

namespace Format

variable {ν α : Type}

/-- A slot that has to be filled. -/
def required (read : ν → Option α) (slot : Option ν) : Option α :=
  slot.bind read

/-- A slot that may be left out. -/
def defaulted (default : α) (read : ν → Option α) : Option ν → Option α
  | none => some default
  | some value => read value

/-- A slot whose value may also be absent. -/
def optional (format : Format ν) (read : ν → Option α) : Option ν → Option (Option α)
  | none => some none
  | some value => if format.isAbsent value then some none else (read value).map some

/-- A list, one level down. -/
def listOf (format : Format ν) (read : Nat → ν → Option α) : Nat → ν → Option (List α)
  | 0, _ => none
  | depth + 1, value => (format.items? value).bind (·.mapM (read depth))

/-- The slots of a record, one level down. -/
def slotsOf (format : Format ν) (names : List String) (value : ν) : Option (List (Option ν)) :=
  (format.record? value).bind (·.slots names)

def uint32? (format : Format ν) (value : ν) : Option UInt32 :=
  (format.natural? value).bind fun n => if n < UInt32.size then some (UInt32.ofNat n) else none

def int32? (format : Format ν) (value : ν) : Option Int32 :=
  (format.integer? value).bind fun n =>
    if Int32.minValue.toInt ≤ n && n ≤ Int32.maxValue.toInt then some (Int32.ofInt n) else none

end Format

/-- JSON documents: records are objects or arrays, and a word may also be the only key of an object over `null`. -/
def Json.format : Format Json where
  text?
    | .str text => some text
    | _ => none
  flag?
    | .bool value => some value
    | _ => none
  natural?
    | .int value => if 0 ≤ value then some value.toNat else none
    | _ => none
  integer?
    | .int value => some value
    | _ => none
  isAbsent
    | .null => true
    | _ => false
  items?
    | .arr elements => some elements
    | _ => none
  record?
    | .obj members => some (.named members)
    | .arr elements => some (.positional elements)
    | _ => none
  word?
    | _, .str text => some text
    | _ + 1, .obj [(word, .null)] => some word
    | _, _ => none
  variant?
    | .obj [(tag, value)] => some (tag, value)
    | _ => none
  depth := 127

end ProtoClass
