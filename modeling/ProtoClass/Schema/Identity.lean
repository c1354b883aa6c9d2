import ProtoClass.Text.Blank

/-!
# Identities

The identity of a declaration is its fully qualified name without a leading dot.  `Identity.scopes` lists the scopes
in which a relative name is looked up, from the inside out.
-/

namespace ProtoClass

/-- The fully qualified name of a message or enum. -/
structure Identity where
  name : String
  deriving DecidableEq

namespace Identity

/-- The identity a name denotes; a leading dot is not part of it. -/
def ofName (name : String) : Identity :=
  match name.toList with
  | '.' :: rest => ⟨String.ofList rest⟩
  | _ => ⟨name⟩

/-- The identity of a declaration called `name` inside another one. -/
def child (identity : Identity) (name : String) : Identity :=
  if identity.name.isEmpty then ⟨name⟩ else ⟨identity.name ++ "." ++ name⟩

/-- The scopes around a scope, both written backwards, down to the empty one. -/
def outward : List Char → List (List Char)
  | [] => [[]]
  | c :: rest =>
    if c = '.' then if rest.isEmpty then [[]] else rest :: outward rest
    else outward rest

/-- A scope and the scopes around it: each is cut at its last dot, and the last one is empty. -/
def scopes (identity : Identity) : List String :=
  let reversed := identity.name.toList.reverse
  let chain := if reversed.isEmpty then [[]] else reversed :: outward reversed
  chain.map fun scope => String.ofList scope.reverse

end Identity

end ProtoClass
