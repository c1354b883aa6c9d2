/-!
# Names that are free

A name that is taken is replaced by the first free one of a sequence of candidates.  One more candidate than there are
taken names is enough, because the candidates differ.
-/

namespace ProtoClass.Naming

/-- The first index from `start` on whose candidate is not taken, looking at `fuel` candidates. -/
def freeIndex (candidate : Nat → String) (taken : List String) : Nat → Nat → Nat
  | 0, start => start
  | fuel + 1, start =>
    if taken.contains (candidate start) then freeIndex candidate taken fuel (start + 1) else start

/-- The first candidate that is not taken.  Indices are natural numbers and never run out; counting them in signed
32-bit integers gives the same names as long as fewer than `2 ^ 31 - 1` names are taken. -/
def firstFree (candidate : Nat → String) (taken : List String) : String :=
  candidate (freeIndex candidate taken taken.length 0)

/-- A name, or the name with `n` underscores after it. -/
def underscored (name : String) (n : Nat) : String :=
  name ++ String.ofList (List.replicate n '_')

/-- A name, or the name with a dollar sign and a number after it. -/
def numbered (name : String) (n : Nat) : String :=
  if n = 0 then name else name ++ "$" ++ toString n

end ProtoClass.Naming
