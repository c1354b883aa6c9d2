/-!
# JSON values

Objects keep their members in order and may name a key twice; numbers that are not written as integers keep their
text.
-/

namespace ProtoClass

/-- A JSON value. -/
inductive Json where
  | null
  | bool (value : Bool)
  | int (value : Int)
  /-- a number with a fraction, an exponent or the sign of a negative zero -/
  | real (text : String)
  | str (text : String)
  | arr (elements : List Json)
  | obj (members : List (String × Json))
  /-- a string, or an object with a key, whose escapes leave half of a surrogate pair alone: it is well-formed JSON
  but stands for no text -/
  | unreadable

namespace Json

def ofNat (n : Nat) : Json := .int n

def strs (texts : List String) : Json := .arr (texts.map .str)

/-- A value or `null`. -/
def optional {α : Type} (encode : α → Json) : Option α → Json
  | none => .null
  | some a => encode a

/-- The value of the first member with the given key. -/
def get? (key : String) : Json → Option Json
  | .obj members => members.lookup key
  | _ => none

end Json

end ProtoClass
