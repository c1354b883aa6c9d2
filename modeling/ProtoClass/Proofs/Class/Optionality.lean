import Mathlib.Data.List.DropRight
import Mathlib.Data.List.Forall2
import ProtoClass.Class.Decl
import ProtoClass.Proofs.Text.Joining
import ProtoClass.Proofs.TypeScript.Unambiguity

/-!
# Question marks in constructors

A parameter with a question mark may not be followed by one without.  The optional parameters at the end of the list
get the question mark, as many as there are in a row, and the type of an optional parameter further up includes
`undefined` instead.  The parameters are cut where the last required one ends: in front of the cut no parameter is
marked (`renderParams_append`), after it all are (`renderParams_of_optional`), and the rest of the text is laid out as
in `ClassDecl.textOf`.
-/

namespace ProtoClass

open TypeScript (TypeExpr)

/-- A parameter as the text of a class shows it. -/
structure PrintedParam where
  docs : List String
  name : String
  /-- a question mark stands after the name -/
  marked : Bool
  type : TypeExpr

namespace PrintedParam

def line (printed : PrintedParam) : String :=
  "    public readonly " ++ printed.name ++ (if printed.marked then "?: " else ": ") ++ printed.type.render ++ ",\n"

/-- The documentation of a parameter and its line. -/
def text (printed : PrintedParam) : String :=
  TypeScript.docBlock "    " printed.docs ++ printed.line

/-- A constructor can be called with `undefined` in the place of the parameter. -/
def AcceptsUndefined (printed : PrintedParam) : Prop :=
  printed.marked = true ∨ TypeExpr.primitive .undefined ∈ printed.type.members

end PrintedParam

/-- A parameter as it is printed with or without a question mark.  Without one, the type of an optional parameter has
`undefined` as its last member. -/
def Param.printed (param : Param) (marked : Bool) : PrintedParam where
  docs := param.docs.lines
  name := param.name
  marked
  type := if param.optional && !marked then .union (param.type.members ++ [.primitive .undefined]) else param.type

namespace ClassDecl

/-- The text of a class whose constructor shows the given parameters. -/
def textOf (docs : List String) (name : String) (printed : List PrintedParam) : String :=
  TypeScript.docBlock "" docs
    ++ "export class " ++ name ++ " \x7b\n"
    ++ (if printed.isEmpty then "  constructor() \x7b\x7d\n"
        else "  constructor(\n" ++ Text.concat (printed.map PrintedParam.text) ++ "  ) \x7b\x7d\n")
    ++ "\x7d\n"

end ClassDecl

/-! ### The end of a list -/

/-- The longest end of a list whose elements all satisfy `p`. -/
structure IsLongestEnd {α : Type} (p : α → Bool) (list tail : List α) : Prop where
  suffix : tail <:+ list
  all : ∀ a ∈ tail, p a = true
  longest : ∀ other, other <:+ list → (∀ a ∈ other, p a = true) → other <:+ tail

/-- A list is cut in front of an end whose elements satisfy `p`; if the last element before the cut does not, the end
is the longest one. -/
theorem isLongestEnd_append {α : Type} {p : α → Bool} {front tail : List α} (htail : ∀ a ∈ tail, p a = true)
    (hfront : ∀ last ∈ front.getLast?, p last = false) : IsLongestEnd p (front ++ tail) tail := by
  refine ⟨List.suffix_append front tail, htail, fun other hother hall => ?_⟩
  rcases List.suffix_or_suffix_of_suffix hother (List.suffix_append front tail) with h | ⟨extra, rfl⟩
  · exact h
  -- what the other end has in addition is an end of `front`
  obtain ⟨before, hbefore⟩ := hother
  rw [← List.append_assoc, List.append_cancel_right_eq] at hbefore
  rcases List.eq_nil_or_concat extra with rfl | ⟨init, last, rfl⟩
  · exact List.suffix_rfl
  · have hlast : front.getLast? = some last := by simp [← hbefore, ← List.append_assoc]
    have hp := hall last (by simp)
    rw [hfront last hlast] at hp
    cases hp

/-! ### The parameters in front of the cut and after it -/

namespace ClassDecl

/-- A parameter is marked if it and all parameters after it are optional. -/
theorem docs_append_paramLine (param : Param) (rest : List Param) :
    TypeScript.docBlock "    " param.docs.lines ++ paramLine param rest =
      (param.printed (param.optional && rest.all (·.optional))).text := by
  unfold paramLine Param.printed PrintedParam.text PrintedParam.line
  cases hoptional : param.optional with
  | false => simp [String.append_assoc]
  | true => cases hrest : rest.all (·.optional) <;> simp [TypeExpr.orUndefined_eq, String.append_assoc]

theorem renderParams_cons (param : Param) (rest : List Param) :
    renderParams (param :: rest) =
      (param.printed (param.optional && rest.all (·.optional))).text ++ renderParams rest := by
  rw [renderParams, docs_append_paramLine]

theorem renderParams_of_optional {tail : List Param} (h : ∀ param ∈ tail, param.optional = true) :
    renderParams tail = Text.concat (tail.map fun param => (param.printed true).text) := by
  induction tail with
  | nil => rfl
  | cons param rest ih =>
    have hparam := h param List.mem_cons_self
    have hrest : ∀ other ∈ rest, other.optional = true := fun other hother => h other (List.mem_cons_of_mem _ hother)
    have hmarked : (param.optional && rest.all (·.optional)) = true := by
      rw [hparam, Bool.true_and]
      exact List.all_eq_true.2 hrest
    rw [renderParams_cons, hmarked, ih hrest]
    rfl

/-- In front of a required parameter, and at its own place, there is no question mark. -/
theorem renderParams_append {front : List Param} (tail : List Param)
    (h : ∀ last ∈ front.getLast?, last.optional = false) :
    renderParams (front ++ tail) =
      Text.concat (front.map fun param => (param.printed false).text) ++ renderParams tail := by
  induction front with
  | nil => simp [Text.concat]
  | cons param rest ih =>
    have hrest : ∀ last ∈ rest.getLast?, last.optional = false := by
      intro last hlast
      refine h last ?_
      simp [List.getLast?_cons, Option.mem_def.1 hlast]
    have hmarked : (param.optional && (rest ++ tail).all (·.optional)) = false := by
      rcases List.eq_nil_or_concat rest with rfl | ⟨init, last, rfl⟩
      · simp [h param (by simp)]
      · simp [hrest last (by simp)]
    rw [List.cons_append, renderParams_cons, hmarked, ih hrest, ← String.append_assoc]
    rfl

/-- The text of a class, from a cut of its parameters. -/
theorem render_eq_textOf {decl : ClassDecl} {front tail : List Param} (hparams : decl.params = front ++ tail)
    (hfront : ∀ last ∈ front.getLast?, last.optional = false) (htail : ∀ param ∈ tail, param.optional = true) :
    decl.render = textOf decl.docs.lines decl.name (front.map (·.printed false) ++ tail.map (·.printed true)) := by
  have hconcat : renderParams (front ++ tail) =
      Text.concat ((front.map (·.printed false) ++ tail.map (·.printed true)).map PrintedParam.text) := by
    rw [renderParams_append tail hfront, renderParams_of_optional htail, List.map_append, List.map_map, List.map_map,
      Text.concat_append]
    rfl
  unfold render textOf
  rw [hparams, hconcat]
  simp

end ClassDecl

theorem Param.acceptsUndefined_printed (param : Param) {marked : Bool} (h : param.optional = true) :
    (param.printed marked).AcceptsUndefined := by
  cases marked with
  | true => exact Or.inl rfl
  | false =>
    have htype : (param.printed false).type = .union (param.type.members ++ [.primitive .undefined]) := by
      simp [printed, h]
    right
    rw [htype]
    exact List.mem_append_right _ List.mem_cons_self

/-- The text of a class shows its parameters in order.  Those of the longest optional end are marked, and no others:
no parameter without a question mark follows one with it, and all optional ones accept `undefined`. -/
theorem ClassDecl.render_marks_longest_end (decl : ClassDecl) :
    ∃ front tail, decl.params = front ++ tail ∧ IsLongestEnd (·.optional) decl.params tail ∧
      ∃ printed, printed = front.map (·.printed false) ++ tail.map (·.printed true) ∧
        decl.render = textOf decl.docs.lines decl.name printed ∧
        printed.Pairwise (fun before after => before.marked = true → after.marked = true) ∧
        List.Forall₂ (fun param printed => param.optional = true → printed.AcceptsUndefined) decl.params printed := by
  let front := decl.params.rdropWhile (·.optional)
  let tail := decl.params.rtakeWhile (·.optional)
  have hparams : decl.params = front ++ tail := (List.rdropWhile_append_rtakeWhile ..).symm
  have htail : ∀ param ∈ tail, param.optional = true := fun param hparam => List.mem_rtakeWhile_imp hparam
  have hfront : ∀ last ∈ front.getLast?, last.optional = false := by
    intro last hlast
    have hne : front ≠ [] := by
      intro hnil
      simp [hnil] at hlast
    obtain rfl : front.getLast hne = last := by simpa [List.getLast?_eq_some_getLast hne] using hlast
    simpa using List.rdropWhile_last_not (·.optional) decl.params hne
  refine ⟨front, tail, hparams, ?_, _, rfl, render_eq_textOf hparams hfront htail, ?_, ?_⟩
  · rw [hparams]
    exact isLongestEnd_append htail hfront
  · refine List.pairwise_append.2 ⟨?_, ?_, ?_⟩
    · exact List.pairwise_map.2 (List.pairwise_of_forall fun _ _ hmarked => by cases hmarked)
    · exact List.pairwise_map.2 (List.pairwise_of_forall fun _ _ _ => rfl)
    · intro before hbefore after hafter _
      obtain ⟨param, _, rfl⟩ := List.mem_map.1 hafter
      rfl
  · have haccepts : ∀ (marked : Bool) (params : List Param),
        List.Forall₂ (fun param printed => param.optional = true → printed.AcceptsUndefined) params
          (params.map (·.printed marked)) := fun marked params =>
      List.forall₂_map_right_iff.2 (List.forall₂_same.2 fun param _ => param.acceptsUndefined_printed)
    rw [hparams]
    exact List.rel_append (haccepts false front) (haccepts true tail)

end ProtoClass
