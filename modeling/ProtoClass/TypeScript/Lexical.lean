import ProtoClass.Text.Blank

/-!
# Words, literals and comments of TypeScript

Reserved words, identifiers, double-quoted literals and documentation blocks.
-/

namespace ProtoClass.TypeScript

/-- Words that cannot name a constructor parameter. -/
def reservedWords : List String := [
  "break", "case", "catch", "class", "const", "continue", "debugger", "default", "delete", "do",
  "else", "enum", "export", "extends", "false", "finally", "for", "function", "if", "import",
  "in", "instanceof", "new", "null", "return", "super", "switch", "this", "throw", "true",
  "try", "typeof", "var", "void", "while", "with", "as", "implements", "interface", "let",
  "package", "private", "protected", "public", "static", "yield", "any", "boolean",
  "constructor", "declare", "get", "module", "require", "number", "set", "string", "symbol",
  "type", "from", "of", "namespace", "async", "await", "undefined"]

def isReserved (word : String) : Bool :=
  reservedWords.contains word

/-- A reserved word with an underscore after it, any other word as it is. -/
def escapeReserved (word : String) : String :=
  if isReserved word then word ++ "_" else word

def isIdentifierStart (c : Char) : Bool :=
  c.isAlpha || c == '_' || c == '$'

def isIdentifierPart (c : Char) : Bool :=
  c.isAlphanum || c == '_' || c == '$'

/-- An identifier of ASCII characters. -/
def isIdentifier (word : String) : Bool :=
  match word.toList with
  | [] => false
  | c :: rest => isIdentifierStart c && rest.all isIdentifierPart

/-- A character inside a literal. -/
def escapeLiteralChar (c : Char) : List Char :=
  if c = '"' then ['\\', '"']
  else if c = '\\' then ['\\', '\\']
  else if c = '\n' then ['\\', 'n']
  else [c]

/-- A double-quoted literal. -/
def literal (text : String) : String :=
  "\"" ++ String.ofList (text.toList.flatMap escapeLiteralChar) ++ "\""

/-- Text in which no comment can end. -/
def escapeCommentEnd : List Char → List Char
  | '*' :: '/' :: rest => '*' :: '\\' :: '/' :: escapeCommentEnd rest
  | c :: rest => c :: escapeCommentEnd rest
  | [] => []

/-- A line of a documentation block. -/
def docLine (indent line : String) : String :=
  let content := String.ofList (escapeCommentEnd line.toList)
  if content.isEmpty then indent ++ " *\n" else indent ++ " * " ++ content ++ "\n"

/-- A documentation block; nothing for no lines. -/
def docBlock (indent : String) (lines : List String) : String :=
  if lines.isEmpty then ""
  else indent ++ "/**\n" ++ Text.concat (lines.map (docLine indent)) ++ indent ++ " */\n"

end ProtoClass.TypeScript
