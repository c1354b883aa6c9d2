/-!
# Scalar kinds

The fifteen scalar kinds of a message schema with their keywords, and the three ways in which a 64-bit integer can be
held by the generated code.
-/

namespace ProtoClass

/-- A scalar kind of the schema language. -/
inductive Scalar where
  | bool | string | bytes | float | double
  | int32 | uint32 | sint32 | fixed32 | sfixed32
  | int64 | uint64 | sint64 | fixed64 | sfixed64
  deriving DecidableEq

namespace Scalar

def all : List Scalar :=
  [bool, string, bytes, float, double, int32, uint32, sint32, fixed32, sfixed32, int64, uint64, sint64, fixed64,
    sfixed64]

/-- The word that names the kind in a schema. -/
def keyword : Scalar → String
  | bool => "bool"
  | string => "string"
  | bytes => "bytes"
  | float => "float"
  | double => "double"
  | int32 => "int32"
  | uint32 => "uint32"
  | sint32 => "sint32"
  | fixed32 => "fixed32"
  | sfixed32 => "sfixed32"
  | int64 => "int64"
  | uint64 => "uint64"
  | sint64 => "sint64"
  | fixed64 => "fixed64"
  | sfixed64 => "sfixed64"

def ofKeyword? (word : String) : Option Scalar :=
  all.find? (·.keyword == word)

/-- The integers that do not fit a 32-bit word. -/
def isLong : Scalar → Bool
  | int64 | uint64 | sint64 | fixed64 | sfixed64 => true
  | _ => false

def isInteger : Scalar → Bool
  | int32 | uint32 | sint32 | fixed32 | sfixed32 => true
  | kind => kind.isLong

/-- Integers, `bool` and `string` can be map keys; floating point numbers and `bytes` cannot. -/
def isMapKey : Scalar → Bool
  | bool | string => true
  | kind => kind.isInteger

end Scalar

/-- How generated code holds a 64-bit integer. -/
inductive LongForm where
  /-- decimal text -/
  | string
  /-- a double, exact up to 2^53 -/
  | number
  /-- an integer of any size -/
  | bigint
  deriving DecidableEq, Inhabited

namespace LongForm

def all : List LongForm := [string, number, bigint]

def keyword : LongForm → String
  | string => "string"
  | number => "number"
  | bigint => "bigint"

def ofKeyword? (word : String) : Option LongForm :=
  all.find? (·.keyword == word)

end LongForm

end ProtoClass
