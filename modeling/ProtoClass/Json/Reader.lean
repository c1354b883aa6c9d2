import ProtoClass.Json.Value

/-!
# Reading JSON text

`Json.parse?` accepts exactly one value with blanks around it.  Nesting is not limited here: whoever interprets a
value decides how deep it may go.
-/

namespace ProtoClass.Json

private def skipBlanks (text : List Char) : List Char :=
  text.dropWhile fun c => c == ' ' || c == '\n' || c == '\t' || c == '\r'

/-- The value of a hexadecimal digit. -/
def hexDigit? (c : Char) : Option Nat :=
  if '0' ≤ c && c ≤ '9' then some (c.toNat - '0'.toNat)
  else if 'a' ≤ c && c ≤ 'f' then some (c.toNat - 'a'.toNat + 10)
  else if 'A' ≤ c && c ≤ 'F' then some (c.toNat - 'A'.toNat + 10)
  else none

/-- The number written by hexadecimal digits, the most significant first. -/
def hexNumber? (digits : List Char) : Option Nat :=
  digits.foldl (fun n c => do return 16 * (← n) + (← hexDigit? c)) (some 0)

/-- The character of a one-letter escape. -/
private def shortEscape? : Char → Option Char
  | '"' => some '"'
  | '\\' => some '\\'
  | '/' => some '/'
  | 'b' => some (Char.ofNat 0x08)
  | 'f' => some (Char.ofNat 0x0C)
  | 'n' => some '\n'
  | 'r' => some '\r'
  | 't' => some '\t'
  | _ => none

/-- The text of a string literal while it is read. -/
private structure Literal where
  /-- characters so far, the last one first -/
  reversed : List Char
  /-- the first half of a surrogate pair whose second half has to follow -/
  pending : Option Nat
  /-- no half of a pair stands alone so far -/
  readable : Bool

private def Literal.push (literal : Literal) (c : Char) : Literal :=
  ⟨c :: literal.reversed, none, literal.readable && literal.pending.isNone⟩

private def Literal.pushUnit (literal : Literal) (unit : Nat) : Literal :=
  if 0xD800 ≤ unit && unit < 0xDC00 then
    ⟨literal.reversed, some unit, literal.readable && literal.pending.isNone⟩
  else if 0xDC00 ≤ unit && unit < 0xE000 then
    match literal.pending with
    | some high =>
      ⟨Char.ofNat (0x10000 + (high - 0xD800) * 0x400 + (unit - 0xDC00)) :: literal.reversed, none, literal.readable⟩
    | none => ⟨literal.reversed, none, false⟩
  else literal.push (Char.ofNat unit)

private def Literal.text? (literal : Literal) : Option String :=
  if literal.readable && literal.pending.isNone then some (String.ofList literal.reversed.reverse) else none

/-- Reads a string literal after its opening quote.  The inner option is the text it stands for, if it stands for
one. -/
private def readString (literal : Literal) : List Char → Option (Option String × List Char)
  | [] => none
  | '"' :: rest => some (literal.text?, rest)
  | '\\' :: 'u' :: a :: b :: c :: d :: rest =>
    match hexNumber? [a, b, c, d] with
    | some unit => readString (literal.pushUnit unit) rest
    | none => none
  | '\\' :: c :: rest =>
    match shortEscape? c with
    | some char => readString (literal.push char) rest
    | none => none
  | c :: rest => if c.toNat < 0x20 || c = '\\' then none else readString (literal.push c) rest

/-- The digits at the front, which must not be missing. -/
private def readDigits (text : List Char) : Option (List Char × List Char) :=
  match text.takeWhile Char.isDigit with
  | [] => none
  | digits => some (digits, text.dropWhile Char.isDigit)

private def digitsValue (digits : List Char) : Nat :=
  digits.foldl (fun n c => 10 * n + (c.toNat - '0'.toNat)) 0

private def readFraction : List Char → Option (List Char × List Char)
  | '.' :: rest => do
    let (digits, rest) ← readDigits rest
    return ('.' :: digits, rest)
  | text => some ([], text)

private def readExponent : List Char → Option (List Char × List Char)
  | [] => some ([], [])
  | e :: rest =>
    if e = 'e' || e = 'E' then do
      let (sign, rest) :=
        match rest with
        | '+' :: rest => (['+'], rest)
        | '-' :: rest => (['-'], rest)
        | rest => ([], rest)
      let (digits, rest) ← readDigits rest
      return (e :: sign ++ digits, rest)
    else some ([], e :: rest)

/-- A number without its sign. -/
private def readNumber (negative : Bool) (text : List Char) : Option (Json × List Char) := do
  let (whole, rest) ← readDigits text
  if whole.length > 1 && whole.head? == some '0' then none
  let (fraction, rest) ← readFraction rest
  let (exponent, rest) ← readExponent rest
  if fraction.isEmpty && exponent.isEmpty && !(negative && whole == ['0']) then
    let n : Int := digitsValue whole
    return (.int (if negative then -n else n), rest)
  else
    let sign := if negative then ['-'] else []
    return (.real (String.ofList (sign ++ whole ++ fraction ++ exponent)), rest)

/-- An object, unless one of its keys stands for no text. -/
private def objectOf (members : List (Option String × Json)) : Json :=
  match members.mapM fun (key, value) => key.map fun k => (k, value) with
  | some members => .obj members
  | none => .unreadable

mutual

private def readValue : Nat → List Char → Option (Json × List Char)
  | 0, _ => none
  | fuel + 1, text =>
    match skipBlanks text with
    | 'n' :: 'u' :: 'l' :: 'l' :: rest => some (.null, rest)
    | 't' :: 'r' :: 'u' :: 'e' :: rest => some (.bool true, rest)
    | 'f' :: 'a' :: 'l' :: 's' :: 'e' :: rest => some (.bool false, rest)
    | '"' :: rest => do
      let (content, rest) ← readString ⟨[], none, true⟩ rest
      return (content.elim .unreadable .str, rest)
    | '[' :: rest =>
      match skipBlanks rest with
      | ']' :: rest => some (.arr [], rest)
      | rest => do
        let (elements, rest) ← readElements fuel rest
        return (.arr elements, rest)
    | '\x7b' :: rest =>
      match skipBlanks rest with
      | '\x7d' :: rest => some (.obj [], rest)
      | rest => do
        let (members, rest) ← readMembers fuel rest
        return (objectOf members, rest)
    | '-' :: rest => readNumber true rest
    | rest => readNumber false rest

private def readElements : Nat → List Char → Option (List Json × List Char)
  | 0, _ => none
  | fuel + 1, text => do
    let (first, rest) ← readValue fuel text
    match skipBlanks rest with
    | ']' :: rest => return ([first], rest)
    | ',' :: rest =>
      let (others, rest) ← readElements fuel rest
      return (first :: others, rest)
    | _ => none

private def readMembers : Nat → List Char → Option (List (Option String × Json) × List Char)
  | 0, _ => none
  | fuel + 1, text =>
    match skipBlanks text with
    | '"' :: rest => do
      let (key, rest) ← readString ⟨[], none, true⟩ rest
      match skipBlanks rest with
      | ':' :: rest =>
        let (value, rest) ← readValue fuel rest
        match skipBlanks rest with
        | '\x7d' :: rest => return ([(key, value)], rest)
        | ',' :: rest =>
          let (others, rest) ← readMembers fuel rest
          return ((key, value) :: others, rest)
        | _ => none
      | _ => none
    | _ => none

end

/-- The value a text holds.  Every level and every element takes a character, so the length of the text bounds the
recursion. -/
def parse? (text : String) : Option Json := do
  let chars := text.toList
  let (value, rest) ← readValue (chars.length + 1) chars
  if (skipBlanks rest).isEmpty then some value else none

end ProtoClass.Json
