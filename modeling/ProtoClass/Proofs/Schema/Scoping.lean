import Mathlib.Data.List.Induction
import ProtoClass.Proofs.Schema.Catalog
import ProtoClass.Proofs.Text.Joining

/-!
# From the inside out

A scope is made of parts with dots between them.  The scopes in which a relative name is looked up are made of ever
fewer of these parts, from all of them down to none (`Identity.scopes_ofParts`), so the name denotes what is declared
in the innermost of them (`Catalog.names_resolve_innermost`).
-/

namespace ProtoClass

namespace Identity

/-- The identity made of parts with dots between them. -/
def ofParts (parts : List String) : Identity :=
  ⟨Text.joinWith "." parts⟩

/-- Parts that can be told apart in an identity: none is empty or has a dot in it. -/
def ArePlain (parts : List String) : Prop :=
  ∀ part ∈ parts, part ≠ "" ∧ '.' ∉ part.toList

instance (parts : List String) : Decidable (ArePlain parts) :=
  inferInstanceAs (Decidable (∀ part ∈ parts, part ≠ "" ∧ '.' ∉ part.toList))

theorem ArePlain.of_concat {parts : List String} {last : String} (h : ArePlain (parts ++ [last])) :
    ArePlain parts ∧ last ≠ "" ∧ '.' ∉ last.toList := by
  refine ⟨fun part hpart => h part (List.mem_append_left _ hpart), ?_⟩
  exact h last (List.mem_append_right _ List.mem_cons_self)

/-! ### The scopes around a scope -/

-- characters that are no dots are passed over
private theorem outward_append {word : List Char} (h : '.' ∉ word) (rest : List Char) :
    outward (word ++ rest) = outward rest := by
  induction word with
  | nil => rfl
  | cons c word ih =>
    rw [List.mem_cons, not_or] at h
    rw [List.cons_append, outward, if_neg (Ne.symm h.1)]
    exact ih h.2

/-- The first character of an identity made of parts is that of its first part. -/
theorem exists_toList_ofParts {parts : List String} (hparts : ArePlain parts) (h : parts ≠ []) :
    ∃ c rest, (ofParts parts).name.toList = c :: rest ∧ c ≠ '.' := by
  obtain ⟨first, others, rfl⟩ := List.exists_cons_of_ne_nil h
  obtain ⟨hne, hdot⟩ := hparts first List.mem_cons_self
  obtain ⟨c, rest, hfirst⟩ := List.exists_cons_of_ne_nil fun hnil => hne (String.toList_eq_nil_iff.1 hnil)
  have hc : c ≠ '.' := by
    rintro rfl
    exact hdot (by simp [hfirst])
  by_cases hothers : others = []
  · subst hothers
    exact ⟨c, rest, hfirst, hc⟩
  · refine ⟨c, rest ++ '.' :: (Text.joinWith "." others).toList, ?_, hc⟩
    simp [ofParts, Text.joinWith_cons first hothers, hfirst]

theorem ofName_ofParts {parts : List String} (h : ArePlain parts) :
    ofName (Text.joinWith "." parts) = ofParts parts := by
  by_cases hparts : parts = []
  · subst hparts
    rfl
  · obtain ⟨c, rest, htext, hc⟩ := exists_toList_ofParts h hparts
    unfold ofName
    split
    · rename_i htext'
      rw [show (Text.joinWith "." parts).toList = c :: rest from htext] at htext'
      cases htext'
      exact absurd rfl hc
    · rfl

/-- Around a scope lie the scope without its last part and the scopes around that. -/
theorem scopes_concat {parts : List String} {last : String} (h : ArePlain (parts ++ [last])) :
    (ofParts (parts ++ [last])).scopes = Text.joinWith "." (parts ++ [last]) :: (ofParts parts).scopes := by
  obtain ⟨hparts, hlast, hdot⟩ := h.of_concat
  have hword : '.' ∉ last.toList.reverse := by simpa using hdot
  by_cases hnil : parts = []
  · subst hnil
    have houtward : outward last.toList.reverse = [[]] := by
      simpa [outward] using outward_append hword []
    simp [scopes, ofParts, Text.joinWith, houtward, hlast]
  · obtain ⟨c, rest, htext, _⟩ := exists_toList_ofParts hparts hnil
    have hreversed : (Text.joinWith "." (parts ++ [last])).toList.reverse =
        last.toList.reverse ++ '.' :: (Text.joinWith "." parts).toList.reverse := by
      simp [Text.joinWith_concat hnil]
    have hne : (Text.joinWith "." parts).toList.reverse ≠ [] := by
      rw [show (Text.joinWith "." parts).toList = c :: rest from htext]
      simp
    have houtward : outward (Text.joinWith "." (parts ++ [last])).toList.reverse =
        (Text.joinWith "." parts).toList.reverse :: outward (Text.joinWith "." parts).toList.reverse := by
      rw [hreversed, outward_append hword, outward, if_pos rfl, if_neg (by simpa using hne)]
    have hlong : (Text.joinWith "." (parts ++ [last])).toList.reverse ≠ [] := by
      rw [hreversed]
      simp
    simp only [scopes, ofParts, houtward, if_neg, List.isEmpty_iff, hlong, hne, not_false_eq_true]
    simp

/-- The scopes around a scope are made of ever fewer of its parts. -/
theorem scopes_ofParts {parts : List String} (h : ArePlain parts) :
    (ofParts parts).scopes =
      (List.range (parts.length + 1)).reverse.map fun depth => Text.joinWith "." (parts.take depth) := by
  induction parts using List.reverseRecOn with
  | nil => rfl
  | append_singleton parts last ih =>
    have hrange : (List.range ((parts ++ [last]).length + 1)).reverse =
        (parts ++ [last]).length :: (List.range (parts.length + 1)).reverse := by
      rw [List.range_succ, List.reverse_append, List.length_append]
      rfl
    rw [scopes_concat h, ih h.of_concat.1, hrange, List.map_cons, List.take_length]
    refine congrArg (List.cons _) (List.map_congr_left fun depth hdepth => ?_)
    have hle : depth ≤ parts.length := by
      have := List.mem_range.1 (List.mem_reverse.1 hdepth)
      omega
    rw [List.take_append_of_le_length hle]

end Identity

namespace Catalog

/-! ### The search -/

-- the search runs through the depths downwards, so it stops at the greatest one
private theorem find?_downwards {α : Type} (declared : α → Bool) (candidate : Nat → α) (bound : Nat) (found : α) :
    ((List.range bound).reverse.map candidate).find? declared = some found ↔
      ∃ depth < bound, found = candidate depth ∧ declared found = true ∧
        ∀ deeper < bound, depth < deeper → declared (candidate deeper) = false := by
  induction bound with
  | zero => simp
  | succ bound ih =>
    rw [List.range_succ, List.reverse_append, List.reverse_singleton, List.singleton_append, List.map_cons]
    by_cases hdeclared : declared (candidate bound) = true
    · rw [List.find?_cons_of_pos hdeclared]
      constructor
      · rintro ⟨⟩
        exact ⟨bound, by omega, rfl, hdeclared, fun deeper hlt hgt => by omega⟩
      · rintro ⟨depth, hlt, rfl, _, hdeeper⟩
        by_cases hdepth : depth = bound
        · rw [hdepth]
        · have := hdeeper bound (by omega) (by omega)
          rw [hdeclared] at this
          cases this
    · rw [List.find?_cons_of_neg hdeclared, ih]
      rw [Bool.not_eq_true] at hdeclared
      constructor
      · rintro ⟨depth, hlt, heq, hfound, hdeeper⟩
        refine ⟨depth, by omega, heq, hfound, fun deeper hlt' hgt => ?_⟩
        by_cases hbound : deeper = bound
        · rw [hbound]
          exact hdeclared
        · exact hdeeper deeper (by omega) hgt
      · rintro ⟨depth, hlt, rfl, hfound, hdeeper⟩
        have hne : depth ≠ bound := by
          rintro rfl
          rw [hdeclared] at hfound
          cases hfound
        exact ⟨depth, by omega, rfl, hfound, fun deeper hlt' hgt => hdeeper deeper (by omega) hgt⟩

def HasMessage (catalog : Catalog) (identity : Identity) : Prop :=
  ∃ entry ∈ catalog.messages, entry.identity = identity

def HasEnum (catalog : Catalog) (identity : Identity) : Prop :=
  ∃ entry ∈ catalog.enums, entry.identity = identity

/-- A full name denotes the identity it gives if that is declared. -/
structure FindsFull (declared : Identity → Prop) (full : String) (answer : Except GenError Identity) : Prop where
  ok_iff : ∀ identity, answer = .ok identity ↔ identity = ⟨full⟩ ∧ declared identity
  error_iff : ∀ error, answer = .error error ↔ error = .unknownType full ∧ ¬ declared ⟨full⟩

/-- A relative name denotes what is declared under it in the innermost of the scopes that `parts` make up, from all of
them down to none. -/
structure FindsInnermost (declared : Identity → Prop) (parts : List String) (name : String)
    (answer : Except GenError Identity) : Prop where
  ok_iff : ∀ identity, answer = .ok identity ↔
    ∃ depth ≤ parts.length, identity = (Identity.ofParts (parts.take depth)).child name ∧ declared identity ∧
      ∀ deeper ≤ parts.length, depth < deeper → ¬ declared ((Identity.ofParts (parts.take deeper)).child name)
  error_iff : ∀ error, answer = .error error ↔ error = .unknownType name ∧
    ∀ depth ≤ parts.length, ¬ declared ((Identity.ofParts (parts.take depth)).child name)

variable {declared : Identity → Bool}

theorem resolveName_finds_full (scope : Identity) (full : String) :
    FindsFull (declared · = true) full (resolveName declared scope ("." ++ full)) := by
  rw [resolveName_full]
  by_cases h : declared ⟨full⟩ = true
  · rw [if_pos h]
    constructor
    · intro identity
      constructor
      · rintro ⟨⟩
        exact ⟨rfl, h⟩
      · rintro ⟨rfl, _⟩
        rfl
    · intro error
      simp [h]
  · rw [if_neg h]
    constructor
    · intro identity
      simp only [reduceCtorEq, false_iff]
      rintro ⟨rfl, hdeclared⟩
      exact h hdeclared
    · intro error
      simp [h, eq_comm]

-- what a relative name denotes is what the search finds
private theorem resolveName_relative (declared : Identity → Bool) {scope : Identity} {name : String}
    (hname : name.toList.head? ≠ some '.') {candidates : List Identity}
    (h : (scope.scopes.map fun s => (Identity.ofName s).child name) = candidates) :
    (∀ identity, resolveName declared scope name = .ok identity ↔ candidates.find? declared = some identity) ∧
      ∀ error, resolveName declared scope name = .error error ↔
        error = .unknownType name ∧ candidates.find? declared = none := by
  unfold resolveName
  rw [if_neg hname, h]
  rcases candidates.find? declared with _ | found <;> simp [eq_comm]

theorem resolveName_finds_innermost {parts : List String} (hparts : Identity.ArePlain parts) {name : String}
    (hname : name.toList.head? ≠ some '.') :
    FindsInnermost (declared · = true) parts name (resolveName declared (Identity.ofParts parts) name) := by
  have hcandidates : ((Identity.ofParts parts).scopes.map fun s => (Identity.ofName s).child name) =
      (List.range (parts.length + 1)).reverse.map fun depth => (Identity.ofParts (parts.take depth)).child name := by
    rw [Identity.scopes_ofParts hparts, List.map_map]
    refine List.map_congr_left fun depth _ => ?_
    have htake : Identity.ArePlain (parts.take depth) := fun part hpart => hparts part (List.mem_of_mem_take hpart)
    rw [Function.comp_apply, Identity.ofName_ofParts htake]
  obtain ⟨hok, herror⟩ := resolveName_relative declared hname hcandidates
  constructor
  · intro identity
    rw [hok, find?_downwards]
    simp only [Nat.lt_add_one_iff, Bool.not_eq_true]
  · intro error
    rw [herror, List.find?_eq_none]
    simp only [List.mem_map, List.mem_reverse, List.mem_range, Nat.lt_add_one_iff, forall_exists_index, and_imp,
      forall_apply_eq_imp_iff₂]

/-- A name with a leading dot denotes what the rest of it names, whatever the scope.  Any other name denotes what is
declared under it in the innermost scope: the scopes are made of the parts of the one in which the name stands, from
all of them down to none.  A name that denotes nothing is not known. -/
theorem names_resolve_innermost (catalog : Catalog) (parts : List String) (hparts : Identity.ArePlain parts) :
    (∀ scope full, FindsFull catalog.HasMessage full (catalog.resolveMessage scope ("." ++ full)) ∧
        FindsFull catalog.HasEnum full (catalog.resolveEnum scope ("." ++ full))) ∧
      ∀ name : String, name.toList.head? ≠ some '.' →
        FindsInnermost catalog.HasMessage parts name (catalog.resolveMessage (Identity.ofParts parts) name) ∧
          FindsInnermost catalog.HasEnum parts name (catalog.resolveEnum (Identity.ofParts parts) name) := by
  have hmessage : catalog.HasMessage = fun identity => (catalog.message? identity).isSome = true := by
    funext identity
    simp [HasMessage, message?]
  have henum : catalog.HasEnum = fun identity => (catalog.enum? identity).isSome = true := by
    funext identity
    simp [HasEnum, enum?]
  rw [hmessage, henum]
  constructor
  · intro scope full
    exact ⟨resolveName_finds_full scope full, resolveName_finds_full scope full⟩
  · intro name hname
    exact ⟨resolveName_finds_innermost hparts hname, resolveName_finds_innermost hparts hname⟩

end Catalog

/-- A message in a package inside another package.  Both packages declare a point, the outer one a curve, and the
message an enum that is called like the curve. -/
def Schema.layered : Schema where
  files := [{ name := "flat.proto"
              package := some "geo.flat"
              messages := [{ name := "Shape", enums := [{ name := "Curve", values := [] }] }, { name := "Point" }] },
            { name := "geo.proto"
              package := some "geo"
              messages := [{ name := "Point" }, { name := "Curve" }] }]

theorem Catalog.names_resolve_innermost_layered :
    Identity.ArePlain ["geo", "flat", "Shape"] ∧ "Point".toList.head? ≠ some '.' ∧
      (Catalog.ofSchema .layered).resolveMessage ⟨"geo.flat.Shape"⟩ "Point" = .ok ⟨"geo.flat.Point"⟩ ∧
      FindsInnermost (Catalog.ofSchema .layered).HasMessage ["geo", "flat", "Shape"] "Point"
        (.ok ⟨"geo.flat.Point"⟩) ∧
      (Catalog.ofSchema .layered).resolveMessage ⟨"geo.flat.Shape"⟩ "Curve" = .ok ⟨"geo.Curve"⟩ ∧
      FindsInnermost (Catalog.ofSchema .layered).HasMessage ["geo", "flat", "Shape"] "Curve" (.ok ⟨"geo.Curve"⟩) ∧
      (Catalog.ofSchema .layered).resolveEnum ⟨"geo.flat.Shape"⟩ "Point" = .error (.unknownType "Point") ∧
      FindsInnermost (Catalog.ofSchema .layered).HasEnum ["geo", "flat", "Shape"] "Point"
        (.error (.unknownType "Point")) := by
  have hparts : Identity.ArePlain ["geo", "flat", "Shape"] := by decide +kernel
  have hscope : Identity.ofParts ["geo", "flat", "Shape"] = ⟨"geo.flat.Shape"⟩ := by decide +kernel
  have hpoint : (Catalog.ofSchema .layered).resolveMessage ⟨"geo.flat.Shape"⟩ "Point" = .ok ⟨"geo.flat.Point"⟩ := by
    decide +kernel
  have hcurve : (Catalog.ofSchema .layered).resolveMessage ⟨"geo.flat.Shape"⟩ "Curve" = .ok ⟨"geo.Curve"⟩ := by
    decide +kernel
  have henum : (Catalog.ofSchema .layered).resolveEnum ⟨"geo.flat.Shape"⟩ "Point" = .error (.unknownType "Point") := by
    decide +kernel
  have hnames := (names_resolve_innermost (Catalog.ofSchema .layered) ["geo", "flat", "Shape"] hparts).2
  rw [hscope] at hnames
  obtain ⟨hmessages, henums⟩ := hnames "Point" (by decide +kernel)
  obtain ⟨hmessages', _⟩ := hnames "Curve" (by decide +kernel)
  rw [hpoint] at hmessages
  rw [henum] at henums
  rw [hcurve] at hmessages'
  exact ⟨hparts, by decide +kernel, hpoint, hmessages, hcurve, hmessages', henum, henums⟩

end ProtoClass
