import ProtoClass.Proofs.Class.Shape
import ProtoClass.Proofs.Module.Linking

/-!
# What the modules of a schema hold

Every message and enum of a schema is declared in the module of its file (`Generator.exists_class`,
`Generator.exists_enum`), and the text of a module has all its declarations (`ModuleDecl.shows_class`,
`ModuleDecl.shows_enum`).
-/

namespace ProtoClass

namespace Text

theorem toList_concat (pieces : List String) : (concat pieces).toList = (pieces.map String.toList).flatten := by
  induction pieces with
  | nil => rfl
  | cons piece rest ih =>
    show (piece ++ concat rest).toList = _
    rw [String.toList_append, ih, List.map_cons, List.flatten_cons]

theorem infix_concat_of_mem {piece : String} {pieces : List String} (h : piece ∈ pieces) :
    piece.toList <:+: (concat pieces).toList := by
  rw [toList_concat]
  exact List.infix_of_mem_flatten (List.mem_map_of_mem h)

private theorem dropWhile_infix {α : Type} (p : α → Bool) (before piece after : List α) :
    piece.dropWhile p <:+: (before ++ (piece ++ after)).dropWhile p := by
  rw [List.dropWhile_append]
  split
  · rw [List.dropWhile_append]
    split
    · rename_i hempty
      rw [List.isEmpty_iff.1 hempty]
      exact List.nil_infix
    · exact (List.prefix_append _ _).isInfix
  · obtain ⟨front, hfront⟩ := List.dropWhile_suffix (l := piece) p
    refine ⟨before.dropWhile p ++ front, after, ?_⟩
    rw [List.append_assoc, List.append_assoc, ← List.append_assoc front, hfront]

/-- Cutting the end off a text does not cut further into a piece of it than cutting the end off the piece. -/
theorem dropEndWhile_infix {α : Type} (p : α → Bool) (before piece after : List α) :
    dropEndWhile p piece <:+: dropEndWhile p (before ++ piece ++ after) := by
  unfold dropEndWhile
  rw [List.reverse_infix, List.reverse_append, List.reverse_append]
  exact dropWhile_infix p _ _ _

end Text

namespace ModuleDecl

variable {decl : ModuleDecl}

/-- A text stands in a module, but for blanks at its end. -/
def Shows (decl : ModuleDecl) (text : String) : Prop :=
  (Text.trimEnd text).toList <:+: decl.contents.toList

theorem shows_of_body {text : String} (h : text.toList <:+: decl.body.toList) : decl.Shows text := by
  obtain ⟨before, after, hbody⟩ := h
  have htrimmed : (Text.trimEnd text).toList <:+: (Text.trimEnd decl.body).toList := by
    simp only [Text.trimEnd, String.toList_ofList, ← hbody]
    exact Text.dropEndWhile_infix _ before text.toList after
  refine htrimmed.trans ?_
  unfold contents
  simp only [String.toList_append]
  exact ⟨_, _, rfl⟩

theorem shows_enum {enum : NamedEnum} (h : enum ∈ decl.enums) : decl.Shows enum.render := by
  refine shows_of_body ((Text.infix_concat_of_mem (List.mem_map_of_mem h)).trans ?_)
  rw [body, String.toList_append]
  exact (List.prefix_append _ _).isInfix

theorem shows_class {named : NamedClass} (h : named ∈ decl.classes) : decl.Shows named.render := by
  refine shows_of_body ((Text.infix_concat_of_mem (List.mem_map_of_mem h)).trans ?_)
  rw [body, String.toList_append]
  exact (List.suffix_append _ _).isInfix

end ModuleDecl

namespace Catalog

variable {catalog : Catalog}

/-- A module declares the enums and messages of a file, in order. -/
structure DeclaredBy (catalog : Catalog) (file : FileDecl) (index : Nat) (decl : ModuleDecl) : Prop where
  source : decl.source = file.name
  enums : List.Forall₂ (fun entry (enum : NamedEnum) => enum.identity = entry.identity ∧ enum.decl = entry.decl)
    (catalog.enumsOf index) decl.enums
  classes : List.Forall₂ (fun entry (named : NamedClass) => named.decl.identity = entry.identity)
    (catalog.messagesOf index) decl.classes

theorem namedEnum_makes (context : TypeContext) (entry : Entry EnumDecl) :
    Gen.Makes (namedEnum context entry) fun enum => enum.identity = entry.identity ∧ enum.decl = entry.decl :=
  (Gen.Makes.anything _).bind fun _ _ => Gen.Makes.pure ⟨rfl, rfl⟩

theorem classOf_makes (hcatalog : catalog.Coherent) (context : TypeContext) {entry : Entry MessageDecl}
    (hentry : entry ∈ catalog.messages) :
    Gen.Makes (catalog.classOf context entry) fun decl => decl.identity = entry.identity := by
  refine (Gen.Makes.ofExcept fun message hmessage => ?_).bind fun message hidentity table decl table' hrun =>
    (context.classDecl_makes message entry.decl table decl table' hrun).1.trans hidentity
  have hresolved := resolve_spec hcatalog hentry context.config.discriminator
  rw [hmessage] at hresolved
  exact hresolved.identity

theorem namedClass_makes (hcatalog : catalog.Coherent) (context : TypeContext) {entry : Entry MessageDecl}
    (hentry : entry ∈ catalog.messages) :
    Gen.Makes (catalog.namedClass context entry) fun named => named.decl.identity = entry.identity :=
  (classOf_makes hcatalog context hentry).bind fun _ hdecl =>
    (Gen.Makes.anything _).bind fun _ _ => Gen.Makes.pure hdecl

theorem moduleDecl_makes (hcatalog : catalog.Coherent) (config : Config) (file : FileDecl) (index : Nat) :
    Gen.Makes (catalog.moduleDecl config file index) (catalog.DeclaredBy file index) := by
  have hdecls : Gen.Makes (catalog.fileDecls ⟨.file file.name, config⟩ index) fun decls =>
      ∀ imports, catalog.DeclaredBy file index ⟨file.name, imports, decls.1, decls.2⟩ :=
    (Gen.Makes.mapM fun entry _ => namedEnum_makes _ entry).bind fun enums henums =>
      (Gen.Makes.mapM fun entry hentry =>
        namedClass_makes hcatalog _ (List.mem_filter.1 hentry).1).bind fun classes hclasses =>
          Gen.Makes.pure fun _ => ⟨rfl, henums, hclasses⟩
  exact hdecls.bind fun decls h => (Gen.Makes.anything _).bind fun _ _ => Gen.Makes.pure (h _)

end Catalog

namespace Generator

variable {generator : Generator} {decls : List ModuleDecl} {table table' : SymbolTable}

theorem moduleDecls_makes (generator : Generator) :
    Gen.Makes generator.moduleDecls
      (List.Forall₂ (fun item decl => generator.catalog.DeclaredBy item.1 item.2 decl) generator.items) :=
  (Gen.Makes.anything _).bind fun _ _ => Gen.Makes.mapM fun item _ =>
    Catalog.moduleDecl_makes (Catalog.coherent_ofSchema generator.schema) generator.config item.1 item.2

/-- Every message has a class in the module of its file. -/
theorem exists_class (hrun : generator.moduleDecls.run table = (.ok decls, table')) {entry : Entry MessageDecl}
    (hentry : entry ∈ generator.catalog.messages) :
    ∃ decl ∈ decls, decl.source = entry.file.name ∧
      ∃ named ∈ decl.classes, named.decl.identity = entry.identity ∧ decl.Shows named.render := by
  obtain ⟨hfile, d, hd, _⟩ := Catalog.mem_messages_ofSchema hentry
  obtain ⟨decl, hdecl, hdeclares⟩ :=
    exists_right_of_forall₂ (generator.moduleDecls_makes table decls table' hrun) (mem_items hfile hd)
  obtain ⟨named, hnamed, hidentity⟩ :=
    exists_right_of_forall₂ hdeclares.classes (List.mem_filter.2 ⟨hentry, beq_self_eq_true _⟩)
  exact ⟨decl, hdecl, hdeclares.source, named, hnamed, hidentity, ModuleDecl.shows_class hnamed⟩

/-- Every enum stands in the module of its file. -/
theorem exists_enum (hrun : generator.moduleDecls.run table = (.ok decls, table')) {entry : Entry EnumDecl}
    (hentry : entry ∈ generator.catalog.enums) :
    ∃ decl ∈ decls, decl.source = entry.file.name ∧
      ∃ enum ∈ decl.enums, enum.identity = entry.identity ∧ enum.decl = entry.decl ∧ decl.Shows enum.render := by
  obtain ⟨hfile, d, hd, _⟩ := Catalog.mem_enums_ofSchema hentry
  obtain ⟨decl, hdecl, hdeclares⟩ :=
    exists_right_of_forall₂ (generator.moduleDecls_makes table decls table' hrun) (mem_items hfile hd)
  obtain ⟨enum, henum, hidentity, hsame⟩ :=
    exists_right_of_forall₂ hdeclares.enums (List.mem_filter.2 ⟨hentry, beq_self_eq_true _⟩)
  exact ⟨decl, hdecl, hdeclares.source, enum, henum, hidentity, hsame, ModuleDecl.shows_enum henum⟩

end Generator

end ProtoClass
