import ProtoClass.Schema.Decl
import ProtoClass.Text.Blank

/-!
# Documentation

The comments of a schema become documentation lines in generated code.  A deprecated declaration is marked at the end
of its leading lines.
-/

namespace ProtoClass

/-- The documentation of a declaration. -/
structure Docs where
  leading : List String := []
  trailing : List String := []
  deriving DecidableEq

namespace Docs

def isEmpty (docs : Docs) : Bool :=
  docs.leading.isEmpty && docs.trailing.isEmpty

/-- All lines: the leading ones, then the trailing ones. -/
def lines (docs : Docs) : List String :=
  docs.leading ++ docs.trailing

end Docs

/-- Which comment of a declaration is meant. -/
inductive Placement where
  | leading | trailing
  deriving DecidableEq

/-- The comments that a declaration carries. -/
structure Commented where
  leading : Option String
  trailing : Option String
  deprecated : Bool

def MessageDecl.commented (message : MessageDecl) : Commented :=
  ⟨message.comment, message.trailingComment, message.deprecated⟩

def FieldDecl.commented (field : FieldDecl) : Commented :=
  ⟨field.comment, field.trailingComment, field.deprecated⟩

def OneofDecl.commented (oneof : OneofDecl) : Commented :=
  ⟨oneof.comment, none, false⟩

def EnumDecl.commented (enum : EnumDecl) : Commented :=
  ⟨enum.comment, none, enum.deprecated⟩

def EnumValueDecl.commented (value : EnumValueDecl) : Commented :=
  ⟨value.comment, none, value.deprecated⟩

/-- The lines of a comment without their blank ends. -/
def commentLines (comment : Option String) : List String :=
  match comment with
  | none => []
  | some text => (Text.lines text).map Text.trimEnd

namespace Docs

/-- Adds one comment of a declaration. -/
def attach (docs : Docs) (source : Commented) : Placement → Docs
  | .leading =>
    { docs with leading := docs.leading ++ commentLines source.leading
        ++ (if source.deprecated then ["@deprecated"] else []) }
  | .trailing => { docs with trailing := docs.trailing ++ commentLines source.trailing }

/-- Both comments of a declaration. -/
def ofBoth (source : Commented) : Docs :=
  (({} : Docs).attach source .leading).attach source .trailing

/-- The leading comment of a declaration. -/
def ofLeading (source : Commented) : Docs :=
  ({} : Docs).attach source .leading

end Docs

end ProtoClass
