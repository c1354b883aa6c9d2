import ProtoClass.Schema.Format
import ProtoClass.Yaml.Node

/-!
# YAML documents as a format

A text is any scalar as it is written.  Flags, integers and "nothing" are plain scalars of certain forms.  An empty
value is also an empty list and an empty record.
-/

namespace ProtoClass.Yaml

/-- The number written by digits of a base; there must be one at least. -/
private def digitsValue? (base : Nat) (digits : List Char) : Option Nat :=
  if digits.isEmpty then none
  else digits.foldl (fun n c => do
    let d ← Json.hexDigit? c
    if d < base then return base * (← n) + d else none) (some 0)

/-- A number in the base its first characters tell.  Decimal numbers do not begin with a superfluous zero. -/
private def unsigned? (text : List Char) : Option Nat :=
  match text with
  | '0' :: 'x' :: digits => digitsValue? 16 digits
  | '0' :: 'o' :: digits => digitsValue? 8 digits
  | '0' :: 'b' :: digits => digitsValue? 2 digits
  | '0' :: _ :: _ => none
  | digits => digitsValue? 10 digits

/-- A natural number with or without a plus sign. -/
def natural? (text : String) : Option Nat :=
  match text.toList with
  | '+' :: digits => unsigned? digits
  | digits => unsigned? digits

/-- An integer with or without a sign. -/
def integer? (text : String) : Option Int :=
  match text.toList with
  | '+' :: digits => (unsigned? digits).map Int.ofNat
  | '-' :: digits => (unsigned? digits).map fun n => -(n : Int)
  | digits => (unsigned? digits).map Int.ofNat

def flag? (text : String) : Option Bool :=
  if ["true", "True", "TRUE"].contains text then some true
  else if ["false", "False", "FALSE"].contains text then some false
  else none

/-- The plain scalars that stand for nothing. -/
def isNull (text : String) : Bool :=
  ["", "~", "null", "Null", "NULL"].contains text

/-- The pairs of a mapping whose keys are scalars. -/
private def members? (pairs : List (Node × Node)) : Option (List (String × Node)) :=
  pairs.mapM fun (key, value) =>
    match key with
    | .scalar text _ => some (text, value)
    | _ => none

/-- YAML documents. -/
def format : Format Node where
  text?
    | .scalar text _ => some text
    | _ => none
  flag?
    | .scalar text true => flag? text
    | _ => none
  natural?
    | .scalar text true => natural? text
    | _ => none
  integer?
    | .scalar text true => integer? text
    | _ => none
  isAbsent
    | .scalar text true => isNull text
    | _ => false
  items?
    | .sequence items => some items
    | .scalar "" true => some []
    | _ => none
  record?
    | .mapping pairs => (members? pairs).map .named
    | .scalar "" true => some (.named [])
    | _ => none
  word?
    | _, .scalar text _ => some text
    | _, _ => none
  variant?
    | .mapping [(.scalar tag _, value)] => some (tag, value)
    | _ => none
  depth := 128

end ProtoClass.Yaml
