import ProtoClass.Json.Value
import ProtoClass.Text.Blank

/-!
# Writing JSON text

`Json.compact` writes a value on one line, `Json.pretty` one element to a line with two blanks for each level.
-/

namespace ProtoClass.Json

private def hexDigitChar (n : Nat) : Char :=
  if n < 10 then Char.ofNat ('0'.toNat + n) else Char.ofNat ('a'.toNat + (n - 10))

private def escapeChar (c : Char) : List Char :=
  match c with
  | '"' => ['\\', '"']
  | '\\' => ['\\', '\\']
  | '\n' => ['\\', 'n']
  | '\r' => ['\\', 'r']
  | '\t' => ['\\', 't']
  | c =>
    if c.toNat = 0x08 then ['\\', 'b']
    else if c.toNat = 0x0C then ['\\', 'f']
    else if c.toNat < 0x20 then ['\\', 'u', '0', '0', hexDigitChar (c.toNat / 16), hexDigitChar (c.toNat % 16)]
    else [c]

/-- A string literal; only quotes, backslashes and control characters are escaped. -/
def quote (text : String) : String :=
  "\"" ++ String.ofList (text.toList.flatMap escapeChar) ++ "\""

mutual

/-- A value on one line. -/
def compact : Json → String
  | .null => "null"
  | .bool value => if value then "true" else "false"
  | .int value => toString value
  | .real text => text
  | .str text => quote text
  | .arr elements => "[" ++ Text.joinWith "," (compactAll elements) ++ "]"
  | .obj members => "\x7b" ++ Text.joinWith "," (compactMembers members) ++ "\x7d"
  | .unreadable => "null"

private def compactAll : List Json → List String
  | [] => []
  | value :: rest => compact value :: compactAll rest

private def compactMembers : List (String × Json) → List String
  | [] => []
  | (key, value) :: rest => (quote key ++ ":" ++ compact value) :: compactMembers rest

end

private def block (opening closing margin : String) (items : List String) : String :=
  if items.isEmpty then opening ++ closing
  else opening ++ "\n" ++ Text.joinWith ",\n" items ++ "\n" ++ margin ++ closing

mutual

/-- A value over several lines; `margin` is the indentation of the line it starts on. -/
def prettyAt (margin : String) : Json → String
  | .arr elements => block "[" "]" margin (prettyAll (margin ++ "  ") elements)
  | .obj members => block "\x7b" "\x7d" margin (prettyMembers (margin ++ "  ") members)
  | .null => "null"
  | .bool value => if value then "true" else "false"
  | .int value => toString value
  | .real text => text
  | .str text => quote text
  | .unreadable => "null"

private def prettyAll (margin : String) : List Json → List String
  | [] => []
  | value :: rest => (margin ++ prettyAt margin value) :: prettyAll margin rest

private def prettyMembers (margin : String) : List (String × Json) → List String
  | [] => []
  | (key, value) :: rest =>
    (margin ++ quote key ++ ": " ++ prettyAt margin value) :: prettyMembers margin rest

end

/-- A value over several lines. -/
def pretty (value : Json) : String :=
  prettyAt "" value

end ProtoClass.Json
