import ProtoClass.Module.Decl
import ProtoClass.Proofs.Class.Optionality
import ProtoClass.Proofs.TypeScript.Comments

/-!
# Documentation stays in comments

A class and an enum are written as documentation blocks and lines of code in turn.  If no name and no type in the code
has a slash, cutting out the comments leaves the lines of code, and these are the same with and without documentation
(`ClassDecl.leaves_render`, `EnumDecl.leaves_render`).
-/

namespace ProtoClass

open TypeScript (TypeExpr Leaves docBlock leaves_append_code leaves_code leaves_docBlock withoutComments)

/-! ### Declarations without documentation -/

def Param.undocumented (param : Param) : Param :=
  { param with docs := {} }

def ClassDecl.undocumented (decl : ClassDecl) : ClassDecl :=
  { decl with
    docs := {}
    params := decl.params.map Param.undocumented }

/-- A constant without its comment.  It is not deprecated either, because documentation would say so. -/
def EnumValueDecl.undocumented (value : EnumValueDecl) : EnumValueDecl :=
  { value with
    comment := none
    deprecated := false }

def EnumDecl.undocumented (enum : EnumDecl) : EnumDecl :=
  { enum with
    comment := none
    deprecated := false
    values := enum.values.map EnumValueDecl.undocumented }

/-- The line that opens a class or an enum. -/
theorem leaves_heading (keywords : String) {name : String} (hname : '/' ∉ name.toList)
    (hkeywords : '/' ∉ keywords.toList) :
    Leaves (keywords ++ name ++ " \x7b\n") (keywords ++ name ++ " \x7b\n") := by
  refine leaves_append_code ?_ (by decide) (by decide)
  simp only [String.toList_append, List.mem_append, hname, hkeywords, or_false, not_false_eq_true]

/-! ### Classes -/

/-- A type gets no slash by `undefined`. -/
theorem TypeScript.TypeExpr.slash_not_mem_render_orUndefined {type : TypeExpr} (h : '/' ∉ type.render.toList) :
    '/' ∉ type.orUndefined.render.toList := by
  have hmembers : type.orUndefined.members = type.members ++ [.primitive .undefined] := by
    rw [orUndefined_eq]
    rfl
  rw [render_eq_joinWith, hmembers, List.map_append]
  by_cases hnil : type.members = []
  · rw [hnil]
    decide
  · rw [List.map_singleton, Text.joinWith_concat (by simpa using hnil), ← render_eq_joinWith]
    simp only [String.toList_append, List.mem_append, h, false_or]
    decide

theorem PrintedParam.leaves_text {printed : PrintedParam} (hname : '/' ∉ printed.name.toList)
    (htype : '/' ∉ printed.type.render.toList) : Leaves printed.text printed.line := by
  have hline : Leaves printed.line printed.line := by
    refine leaves_append_code ?_ (by decide) (by decide)
    cases printed.marked <;> simp only [String.toList_append, List.mem_append, hname, htype, or_false] <;> decide
  exact (leaves_docBlock (by simp) printed.docs).append hline

/-- The names and types of a parameter have no slash. -/
def Param.HasNoSlash (param : Param) : Prop :=
  '/' ∉ param.name.toList ∧ '/' ∉ param.type.render.toList

theorem Param.HasNoSlash.leaves_text {param : Param} (h : param.HasNoSlash) (marked : Bool) :
    Leaves (param.printed marked).text (param.undocumented.printed marked).text := by
  have hundocumented : (param.undocumented.printed marked).text = (param.printed marked).line :=
    String.empty_append
  rw [hundocumented]
  refine PrintedParam.leaves_text h.1 ?_
  unfold printed
  dsimp only
  split
  · rw [← TypeExpr.orUndefined_eq]
    exact TypeExpr.slash_not_mem_render_orUndefined h.2
  · exact h.2

namespace ClassDecl

theorem leaves_renderParams {params : List Param} (h : ∀ param ∈ params, param.HasNoSlash) :
    Leaves (renderParams params) (renderParams (params.map Param.undocumented)) := by
  induction params with
  | nil => exact TypeScript.leaves_empty
  | cons param rest ih =>
    have hoptional : (rest.map Param.undocumented).all (·.optional) = rest.all (·.optional) := by
      rw [List.all_map]
      rfl
    rw [List.map_cons, renderParams_cons, renderParams_cons, hoptional]
    refine Leaves.append ?_ (ih fun other hother => h other (List.mem_cons_of_mem _ hother))
    exact (h param List.mem_cons_self).leaves_text _

/-- What stands between the braces of a class. -/
theorem leaves_constructor {decl : ClassDecl} (hparams : ∀ param ∈ decl.params, param.HasNoSlash) :
    Leaves
      (if decl.params.isEmpty then "  constructor() \x7b\x7d\n"
        else "  constructor(\n" ++ renderParams decl.params ++ "  ) \x7b\x7d\n")
      (if decl.undocumented.params.isEmpty then "  constructor() \x7b\x7d\n"
        else "  constructor(\n" ++ renderParams decl.undocumented.params ++ "  ) \x7b\x7d\n") := by
  have hempty : decl.undocumented.params.isEmpty = decl.params.isEmpty := List.isEmpty_map
  rw [hempty]
  split
  · exact leaves_code (by decide) (by decide)
  · have hopen : Leaves "  constructor(\n" "  constructor(\n" := leaves_code (by decide) (by decide)
    have hclose : Leaves "  ) \x7b\x7d\n" "  ) \x7b\x7d\n" := leaves_code (by decide) (by decide)
    exact (hopen.append (leaves_renderParams hparams)).append hclose

theorem leaves_render {decl : ClassDecl} (hname : '/' ∉ decl.name.toList)
    (hparams : ∀ param ∈ decl.params, param.HasNoSlash) : Leaves decl.render decl.undocumented.render := by
  have hdocs : Leaves (docBlock "" decl.docs.lines) (docBlock "" decl.undocumented.docs.lines) :=
    leaves_docBlock (by simp) decl.docs.lines
  have hhead := leaves_heading "export class " hname (by decide)
  have hend : Leaves "\x7d\n" "\x7d\n" := leaves_code (by decide) (by decide)
  have hall := ((hdocs.append hhead).append (leaves_constructor hparams)).append hend
  simp only [← String.append_assoc] at hall
  exact hall

end ClassDecl

/-! ### Enums -/

theorem slash_not_mem_toString (number : Int32) : '/' ∉ (toString number).toList := by
  have hdigits : ∀ n : Nat, '/' ∉ n.repr.toList := by
    intro n hmem
    rw [Nat.toList_repr] at hmem
    exact absurd (Nat.isDigit_of_mem_toDigits (by decide) (by decide) hmem) (by decide)
  show '/' ∉ number.toInt.repr.toList
  cases number.toInt with
  | ofNat n => exact hdigits n
  | negSucc n =>
    show '/' ∉ ("-" ++ (n + 1).repr).toList
    simp only [String.toList_append, List.mem_append, hdigits, or_false]
    decide

theorem EnumValueDecl.leaves_render {value : EnumValueDecl} (hname : '/' ∉ value.name.toList) :
    Leaves value.render value.undocumented.render := by
  have hdocs : Leaves (docBlock "  " (Docs.ofLeading value.commented).lines)
      (docBlock "  " (Docs.ofLeading value.undocumented.commented).lines) :=
    leaves_docBlock (by simp) (Docs.ofLeading value.commented).lines
  have hline : Leaves ("  " ++ value.name ++ " = " ++ toString value.number ++ ",\n")
      ("  " ++ value.name ++ " = " ++ toString value.number ++ ",\n") := by
    refine leaves_append_code ?_ (by decide) (by decide)
    simp only [String.toList_append, List.mem_append, hname, slash_not_mem_toString, or_false]
    decide
  have hall := hdocs.append hline
  simp only [← String.append_assoc] at hall
  exact hall

theorem EnumDecl.leaves_render {enum : EnumDecl} {name : String} (hname : '/' ∉ name.toList)
    (hvalues : ∀ value ∈ enum.values, '/' ∉ value.name.toList) :
    Leaves (enum.render name) (enum.undocumented.render name) := by
  have hdocs : Leaves (docBlock "" (Docs.ofLeading enum.commented).lines)
      (docBlock "" (Docs.ofLeading enum.undocumented.commented).lines) :=
    leaves_docBlock (by simp) (Docs.ofLeading enum.commented).lines
  have hhead := leaves_heading "export enum " hname (by decide)
  have hbody : Leaves (Text.concat (enum.values.map EnumValueDecl.render))
      (Text.concat (enum.undocumented.values.map EnumValueDecl.render)) := by
    unfold undocumented
    rw [List.map_map]
    exact TypeScript.leaves_concat fun value hvalue => EnumValueDecl.leaves_render (hvalues value hvalue)
  have hend : Leaves "\x7d\n" "\x7d\n" := leaves_code (by decide) (by decide)
  have hall := ((hdocs.append hhead).append hbody).append hend
  simp only [← String.append_assoc] at hall
  exact hall

/-- Documentation cannot leave its comments: without comments, a class or an enum whose names and types have no slash
is written as if it had no documentation. -/
theorem documentation_stays_in_comments :
    (∀ decl : ClassDecl, '/' ∉ decl.name.toList →
      (∀ param ∈ decl.params, '/' ∉ param.name.toList ∧ '/' ∉ param.type.render.toList) →
      withoutComments decl.render = decl.undocumented.render) ∧
    ∀ (enum : EnumDecl) (name : String), '/' ∉ name.toList → (∀ value ∈ enum.values, '/' ∉ value.name.toList) →
      withoutComments (enum.render name) = enum.undocumented.render name := by
  constructor
  · intro decl hname hparams
    exact (ClassDecl.leaves_render hname hparams).withoutComments_eq
  · intro enum name hname hvalues
    exact (EnumDecl.leaves_render hname hvalues).withoutComments_eq

/-- A class whose documentation tries to end its comments. -/
def restless : ClassDecl where
  identity := ⟨"demo.Restless"⟩
  name := "RestlessClass"
  docs := ⟨["**//", "", "/** a */ b /**"], ["*"]⟩
  params :=
    [⟨"note", .union [.literal "a", .array (.primitive .string)], true, ⟨["*/ x: any, /*"], []⟩, .field 1⟩,
     ⟨"size", .primitive .number, false, ⟨["/", "*\n/"], ["\\*/"]⟩, .field 2⟩]

/-- An enum whose documentation tries to end its comments. -/
def restlessEnum : EnumDecl where
  name := "Mood"
  comment := some "*/\r\n*/ enum"
  deprecated := true
  values :=
    [{ name := "CALM", number := 0, comment := some "/*\n\n**/" }, { name := "WILD", number := -1, deprecated := true }]

theorem documentation_stays_in_comments_restless :
    withoutComments restless.render = restless.undocumented.render ∧
      withoutComments (restlessEnum.render "Mood$1") = restlessEnum.undocumented.render "Mood$1" := by
  obtain ⟨hclass, henum⟩ := documentation_stays_in_comments
  exact ⟨hclass restless (by decide) (by decide), henum restlessEnum "Mood$1" (by decide) (by decide)⟩

end ProtoClass
