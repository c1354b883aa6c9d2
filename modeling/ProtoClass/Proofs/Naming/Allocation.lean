import ProtoClass.Proofs.Naming.Property
import ProtoClass.Proofs.Naming.Search

/-!
# Property names by first fit

Requests for property names are served one after the other.  Each gets its property name with the fewest underscores
after it that tell it from the names given before and from the name to keep clear of (`PropertyRequest.Gets`).  One
request after any others is `LocalNames.allocate_gets`, and a whole run of them is `LocalNames.given_first_fit`.
-/

namespace ProtoClass.Naming

open TypeScript (isReserved)

/-- A request for a property name: the schema name, and a name to keep clear of. -/
structure PropertyRequest where
  schemaName : String
  reserved : Option String := none

namespace PropertyRequest

variable {request : PropertyRequest} {before before' : List String} {name : String}

/-- The names that a request cannot get after those in `before`. -/
def Avoids (request : PropertyRequest) (before : List String) (name : String) : Prop :=
  name ∈ before ∨ request.reserved = some name

/-- The property name of a request with a number of underscores after it. -/
def candidate (request : PropertyRequest) : Nat → String :=
  underscored (propertyName request.schemaName)

/-- Adding underscores as long as something is in the way ends, and `name` is what it ends with: no smaller number of
underscores would do. -/
def Gets (request : PropertyRequest) (before : List String) (name : String) : Prop :=
  ∃ count ≤ before.length + 1, SearchEnds request.candidate (request.Avoids before) 0 count ∧
    name = request.candidate count ∧ ¬request.Avoids before name ∧
    ∀ fewer < count, request.Avoids before (request.candidate fewer)

/-- The order in which the names before were given does not matter. -/
theorem Gets.of_perm (h : request.Gets before name) (hperm : before.Perm before') : request.Gets before' name := by
  have havoids : request.Avoids before = request.Avoids before' := by
    funext other
    unfold Avoids
    rw [hperm.mem_iff]
  unfold Gets at h ⊢
  rwa [havoids, hperm.length_eq] at h

end PropertyRequest

namespace LocalNames

variable (names : LocalNames)

theorem allocate_gets (request : PropertyRequest) :
    request.Gets names.used (names.allocate request.schemaName request.reserved).1 := by
  obtain ⟨count, hcount, hname, hends⟩ := firstFree_searchEnds (underscored_injective (propertyName request.schemaName))
    (request.reserved.toList ++ names.used)
  have havoids : (· ∈ request.reserved.toList ++ names.used) = request.Avoids names.used := by
    funext name
    simp [PropertyRequest.Avoids, or_comm]
  rw [havoids] at hends
  have hlength : (request.reserved.toList ++ names.used).length ≤ names.used.length + 1 := by
    cases request.reserved <;> simp
  refine ⟨count, Nat.le_trans hcount hlength, hends, hname, ?_, ?_⟩
  · have hfree := hends.not_taken
    rwa [← hname] at hfree
  · intro fewer hfewer
    exact hends.taken_of_lt (Nat.zero_le fewer) hfewer

/-- The names given out for requests one after the other, and what is given out after them. -/
def serve (names : LocalNames) : List PropertyRequest → List String × LocalNames
  | [] => ([], names)
  | request :: rest =>
    let (name, names) := names.allocate request.schemaName request.reserved
    let (others, names) := names.serve rest
    (name :: others, names)

theorem serve_append (first rest : List PropertyRequest) :
    (names.serve (first ++ rest)).1 = (names.serve first).1 ++ ((names.serve first).2.serve rest).1 := by
  induction first generalizing names with
  | nil => rfl
  | cons request first ih => simp [serve, ih]

theorem length_serve (requests : List PropertyRequest) : (names.serve requests).1.length = requests.length := by
  induction requests generalizing names with
  | nil => rfl
  | cons request rest ih => simp [serve, ih]

/-- The last name given out comes first. -/
theorem used_serve (requests : List PropertyRequest) :
    (names.serve requests).2.used = (names.serve requests).1.reverse ++ names.used := by
  induction requests generalizing names with
  | nil => rfl
  | cons request rest ih => simp [serve, ih, allocate]

theorem Apart.serve {names : LocalNames} (h : names.Apart) (requests : List PropertyRequest) :
    (names.serve requests).2.Apart := by
  induction requests generalizing names with
  | nil => exact h
  | cons request rest ih => exact ih (h.allocate request.schemaName request.reserved)

/-- The names that one message gives out for requests one after the other. -/
def given (requests : List PropertyRequest) : List String :=
  (({} : LocalNames).serve requests).1

theorem used_eq_reverse_given (requests : List PropertyRequest) :
    (({} : LocalNames).serve requests).2.used = (given requests).reverse := by
  rw [used_serve, List.append_nil]
  rfl

/-- A request is served after those before it as if no others followed. -/
theorem exists_given_eq (before after : List PropertyRequest) (request : PropertyRequest) :
    ∃ name later, given (before ++ request :: after) = given before ++ name :: later ∧
      request.Gets (given before) name := by
  refine ⟨_, _, serve_append {} before (request :: after), ?_⟩
  have hgets := (({} : LocalNames).serve before).2.allocate_gets request
  rw [used_eq_reverse_given] at hgets
  exact hgets.of_perm (List.reverse_perm (given before))

/-- Every request ends with a name: the property name of the schema name with the least number of underscores for which
it is none of the names given before and not the reserved name.  The names given out are different from each other, and
none of them is a reserved word. -/
theorem given_first_fit (requests : List PropertyRequest) :
    (∀ before request after, requests = before ++ request :: after →
      ∃ name later, given requests = given before ++ name :: later ∧ request.Gets (given before) name) ∧
    (given requests).length = requests.length ∧ (given requests).Nodup ∧
    ∀ name ∈ given requests, isReserved name = false := by
  have hapart := apart_empty.serve requests
  refine ⟨?_, length_serve {} requests, ?_, ?_⟩
  · rintro before request after rfl
    exact exists_given_eq before after request
  · have hnodup := hapart.nodup
    rwa [used_eq_reverse_given, (List.reverse_perm _).nodup_iff] at hnodup
  · intro name hname
    refine hapart.unreserved name ?_
    rwa [used_eq_reverse_given, List.mem_reverse]

/-- A name that already ends in underscores, the name to keep clear of in the middle of the underscores, and a reserved
word. -/
example :
    given [⟨"foo_bar", none⟩, ⟨"fooBar", some "fooBar_"⟩, ⟨"foo_bar", none⟩, ⟨"class", none⟩,
      ⟨"class", some "class__"⟩] =
      ["fooBar", "fooBar__", "fooBar_", "class_", "class___"] := by
  decide +kernel

end LocalNames

end ProtoClass.Naming
