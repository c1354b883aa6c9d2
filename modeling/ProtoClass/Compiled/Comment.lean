import ProtoClass.Compiled.Basic
import ProtoClass.Text.Blank

/-!
# Comments of compiled schemas

A compiler keeps the blank after the comment mark and the final line feed; `cleanComment?` removes them.  Of several
locations at one position the last one with a comment counts.
-/

namespace ProtoClass.Compiled

/-- A line of a comment without the blank in front of it and without its blank end. -/
def cleanLine (line : String) : String :=
  match line.toList with
  | ' ' :: rest => Text.trimEnd (String.ofList rest)
  | _ => Text.trimEnd line

/-- The text of a comment, if there is any. -/
def cleanComment? (raw : String) : Option String :=
  let text := Text.trimLineFeeds (Text.joinWith "\n" ((Text.lines raw).map cleanLine))
  if text.isEmpty then none else some text

/-- The comments of a location, cleaned. -/
def Location.clean (location : Location) : Location :=
  { location with
    leading := location.leading.bind cleanComment?
    trailing := location.trailing.bind cleanComment? }

def Location.hasComment (location : Location) : Bool :=
  location.leading.isSome || location.trailing.isSome

/-- The cleaned locations that have a comment, the last one first. -/
def comments (locations : List Location) : List Location :=
  ((locations.map Location.clean).filter Location.hasComment).reverse

end ProtoClass.Compiled
