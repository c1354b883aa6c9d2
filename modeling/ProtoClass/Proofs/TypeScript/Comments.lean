import ProtoClass.TypeScript.Lexical

/-!
# Comments cut out of a text

A text is read from the left: a comment starts with a slash and two stars, whatever comes before it, and ends with the
next star and slash.  `withoutComments` drops all lines that a comment touches.  A documentation block is dropped as a
whole, whatever its lines are (`leaves_docBlock`), and lines of code without a slash are kept (`leaves_code`); this
holds in front of any other text, so that a text can be gone through piece by piece (`Leaves.append`).
-/

namespace ProtoClass.TypeScript

/-- A character of a text, and whether it belongs to a comment. -/
structure MarkedChar where
  char : Char
  inComment : Bool

/-- Marks the comments of a text that starts inside a comment or outside. -/
def markComments : Bool → List Char → List MarkedChar
  | false, '/' :: '*' :: '*' :: rest => ⟨'/', true⟩ :: ⟨'*', true⟩ :: ⟨'*', true⟩ :: markComments true rest
  | true, '*' :: '/' :: rest => ⟨'*', true⟩ :: ⟨'/', true⟩ :: markComments false rest
  | inside, c :: rest => ⟨c, inside⟩ :: markComments inside rest
  | _, [] => []

/-- Puts a character in front of the first line. -/
def extendFirst (c : MarkedChar) : List (List MarkedChar) → List (List MarkedChar)
  | [] => [[c]]
  | line :: lines => (c :: line) :: lines

/-- The lines of a text, each with the line feed at its end. -/
def cutLines : List MarkedChar → List (List MarkedChar)
  | [] => []
  | c :: rest => if c.char = '\n' then [c] :: cutLines rest else extendFirst c (cutLines rest)

/-- A line with no character of a comment. -/
def isUntouched (line : List MarkedChar) : Bool :=
  line.all fun c => !c.inComment

/-- The lines that no comment touches. -/
def untouched (text : List MarkedChar) : List Char :=
  ((cutLines text).filter isUntouched).flatten.map MarkedChar.char

/-- A text without its comments and without the rest of the lines they are on. -/
def withoutComments (text : String) : String :=
  String.ofList (untouched (markComments false text.toList))

/-! ### Reading comments -/

/-- All characters of a text, marked alike. -/
def markAll (inComment : Bool) (text : List Char) : List MarkedChar :=
  text.map (⟨·, inComment⟩)

theorem markAll_append (inComment : Bool) (text text' : List Char) :
    markAll inComment (text ++ text') = markAll inComment text ++ markAll inComment text' :=
  List.map_append

/-- A text in which no comment starts, or in which none ends, whatever comes next. -/
def Stays (inside : Bool) (text : List Char) : Prop :=
  ∀ rest, markComments inside (text ++ rest) = markAll inside text ++ markComments inside rest

theorem Stays.append {inside : Bool} {text text' : List Char} (h : Stays inside text) (h' : Stays inside text') :
    Stays inside (text ++ text') := by
  intro rest
  rw [List.append_assoc, h, h', markAll_append, List.append_assoc]

theorem stays_nil (inside : Bool) : Stays inside [] :=
  fun _ => rfl

/-- No comment starts without a slash, and none ends without a star. -/
theorem Stays.cons {inside : Bool} {c : Char} {text : List Char} (hc : c ≠ if inside then '*' else '/')
    (h : Stays inside text) : Stays inside (c :: text) := by
  intro rest
  rw [List.cons_append, markComments, h]
  · rfl
  · rintro _ rfl rfl
    exact absurd rfl hc
  · rintro _ rfl rfl
    exact absurd rfl hc

theorem stays_of_not_mem {inside : Bool} {text : List Char} (h : (if inside then '*' else '/') ∉ text) :
    Stays inside text := by
  induction text with
  | nil => exact stays_nil inside
  | cons c text ih =>
    rw [List.mem_cons, not_or] at h
    exact (ih h.2).cons (Ne.symm h.1)

/-- A star ends a comment only with a slash after it. -/
theorem Stays.star {c : Char} {text : List Char} (hc : c ≠ '/') (h : Stays true (c :: text)) :
    Stays true ('*' :: c :: text) := by
  intro rest
  rw [List.cons_append, markComments, h]
  · rfl
  · simp
  · rintro _ _ _ hslash
    exact hc (List.cons.inj hslash).1

theorem head?_escapeCommentEnd (text : List Char) : (escapeCommentEnd text).head? = text.head? := by
  fun_cases escapeCommentEnd text <;> rfl

/-- No comment ends inside a line of documentation. -/
theorem stays_escapeCommentEnd (line : List Char) : Stays true (escapeCommentEnd line ++ ['\n']) := by
  fun_induction escapeCommentEnd line with
  | case1 rest ih => exact ((ih.cons (by decide)).cons (by decide)).star (by decide)
  | case2 c rest hend ih =>
    by_cases hstar : c = '*'
    · subst hstar
      -- what comes next is the next character of the line, or the line feed after it
      cases hnext : escapeCommentEnd rest with
      | nil => exact ((stays_nil true).cons (by decide)).star (by decide)
      | cons next others =>
        rw [hnext] at ih
        refine ih.star ?_
        rintro rfl
        have hhead := head?_escapeCommentEnd rest
        rw [hnext] at hhead
        obtain ⟨_, rfl⟩ := List.head?_eq_some_iff.1 hhead.symm
        exact hend _ rfl rfl
    · exact ih.cons hstar
  | case3 => exact (stays_nil true).cons (by decide)

theorem stays_docLine {indent : String} (hindent : '*' ∉ indent.toList) (line : String) :
    Stays true (docLine indent line).toList := by
  have hstart : Stays true (indent.toList ++ [' ']) :=
    Stays.append (stays_of_not_mem hindent) (stays_of_not_mem (by decide))
  unfold docLine
  dsimp only
  split
  · have hline : Stays true ['*', '\n'] := ((stays_nil true).cons (by decide)).star (by decide)
    simpa using hstart.append hline
  · have hline : Stays true ('*' :: ' ' :: (escapeCommentEnd line.toList ++ ['\n'])) :=
      ((stays_escapeCommentEnd line.toList).cons (by decide)).star (by decide)
    simpa using hstart.append hline

theorem stays_concat {texts : List String} (h : ∀ text ∈ texts, Stays true text.toList) :
    Stays true (Text.concat texts).toList := by
  induction texts with
  | nil => exact fun _ => rfl
  | cons text rest ih =>
    show Stays true (text ++ Text.concat rest).toList
    rw [String.toList_append]
    exact (h text List.mem_cons_self).append (ih fun other hother => h other (List.mem_cons_of_mem _ hother))

/-- A documentation block is one comment: it starts after the indentation and ends in front of the last line feed. -/
theorem markComments_docBlock {indent : String} (hslash : '/' ∉ indent.toList) (hstar : '*' ∉ indent.toList)
    {lines : List String} (hlines : lines ≠ []) (rest : List Char) :
    ∃ comment, markComments false ((docBlock indent lines).toList ++ rest) =
      markAll false indent.toList ++ markAll true comment ++ [⟨'/', true⟩] ++
        ⟨'\n', false⟩ :: markComments false rest := by
  let inner := '\n' :: ((Text.concat (lines.map (docLine indent))).toList ++ (indent.toList ++ [' ']))
  have hinner : Stays true inner := by
    have hdocs : Stays true (Text.concat (lines.map (docLine indent))).toList := by
      refine stays_concat fun text htext => ?_
      obtain ⟨line, _, rfl⟩ := List.mem_map.1 htext
      exact stays_docLine hstar line
    refine Stays.cons (by decide) (hdocs.append ?_)
    exact Stays.append (stays_of_not_mem hstar) (stays_of_not_mem (by decide))
  have hblock : (docBlock indent lines).toList ++ rest =
      indent.toList ++ '/' :: '*' :: '*' :: (inner ++ '*' :: '/' :: '\n' :: rest) := by
    simp [docBlock, hlines, inner]
  refine ⟨'/' :: '*' :: '*' :: (inner ++ ['*']), ?_⟩
  have hout : Stays false indent.toList := stays_of_not_mem hslash
  rw [hblock, hout, markComments, hinner, markComments, markComments]
  · simp [markAll]
  · simp
  · simp

/-! ### Dropping lines -/

theorem extendFirst_ne_nil (c : MarkedChar) (lines : List (List MarkedChar)) : extendFirst c lines ≠ [] := by
  cases lines <;> exact List.cons_ne_nil _ _

theorem extendFirst_append (c : MarkedChar) {lines : List (List MarkedChar)} (h : lines ≠ [])
    (others : List (List MarkedChar)) : extendFirst c (lines ++ others) = extendFirst c lines ++ others := by
  cases lines with
  | nil => exact absurd rfl h
  | cons line lines => rfl

theorem cutLines_ne_nil {text : List MarkedChar} (h : text ≠ []) : cutLines text ≠ [] := by
  cases text with
  | nil => exact absurd rfl h
  | cons c rest =>
    unfold cutLines
    split
    · exact List.cons_ne_nil _ _
    · exact extendFirst_ne_nil c _

theorem flatten_cutLines (text : List MarkedChar) : (cutLines text).flatten = text := by
  induction text with
  | nil => rfl
  | cons c rest ih =>
    unfold cutLines
    split
    · rw [List.flatten_cons, ih, List.singleton_append]
    · cases hlines : cutLines rest with
      | nil =>
        rw [hlines] at ih
        simp [extendFirst, ← ih]
      | cons line lines =>
        rw [hlines] at ih
        simp [extendFirst, ← ih]

/-- Lines end at line feeds. -/
theorem cutLines_append {feed : MarkedChar} (hfeed : feed.char = '\n') (text rest : List MarkedChar) :
    cutLines (text ++ feed :: rest) = cutLines (text ++ [feed]) ++ cutLines rest := by
  induction text with
  | nil => simp [cutLines, hfeed]
  | cons c text ih =>
    rw [List.cons_append, List.cons_append, cutLines, cutLines, ih]
    split
    · rfl
    · exact extendFirst_append c (cutLines_ne_nil (by simp)) _

theorem untouched_append {feed : MarkedChar} (hfeed : feed.char = '\n') (text rest : List MarkedChar) :
    untouched (text ++ feed :: rest) = untouched (text ++ [feed]) ++ untouched rest := by
  rw [untouched, cutLines_append hfeed, List.filter_append, List.flatten_append, List.map_append]
  rfl

/-- Without comments all lines are kept. -/
theorem untouched_markAll_false (text : List Char) : untouched (markAll false text) = text := by
  have hall : ∀ line ∈ cutLines (markAll false text), isUntouched line = true := by
    intro line hline
    refine List.all_eq_true.2 fun c hc => ?_
    have hmem : c ∈ markAll false text := flatten_cutLines (markAll false text) ▸ List.mem_flatten_of_mem hline hc
    obtain ⟨_, _, rfl⟩ := List.mem_map.1 hmem
    rfl
  rw [untouched, List.filter_eq_self.2 hall, flatten_cutLines, markAll, List.map_map]
  exact List.map_id text

/-- A comment touches all its lines. -/
def AllTouched (text : List MarkedChar) : Prop :=
  ∀ line ∈ cutLines text, isUntouched line = false

theorem AllTouched.cons {c : MarkedChar} {text : List MarkedChar} (h : AllTouched text) (htext : text ≠ [])
    (hc : c.char ≠ '\n' ∨ c.inComment = true) : AllTouched (c :: text) := by
  intro line hline
  unfold cutLines at hline
  split at hline
  · rename_i hfeed
    rcases List.mem_cons.1 hline with rfl | hline
    · simp [isUntouched, hc.resolve_left (not_not_intro hfeed)]
    · exact h line hline
  · cases hlines : cutLines text with
    | nil => exact absurd hlines (cutLines_ne_nil htext)
    | cons first lines =>
      rw [hlines] at hline
      rcases List.mem_cons.1 hline with rfl | hline
      · have hfirst := h first (hlines ▸ List.mem_cons_self)
        unfold isUntouched at hfirst ⊢
        rw [List.all_cons, hfirst, Bool.and_false]
      · exact h line (hlines ▸ List.mem_cons_of_mem _ hline)

theorem AllTouched.append {text before : List MarkedChar} (h : AllTouched text) (htext : text ≠ [])
    (hbefore : ∀ c ∈ before, c.char ≠ '\n' ∨ c.inComment = true) : AllTouched (before ++ text) := by
  induction before with
  | nil => exact h
  | cons c before ih =>
    have hrest := ih fun other hother => hbefore other (List.mem_cons_of_mem _ hother)
    exact hrest.cons (by simp [htext]) (hbefore c List.mem_cons_self)

theorem untouched_of_allTouched {text : List MarkedChar} (h : AllTouched text) : untouched text = [] := by
  have hnone : (cutLines text).filter isUntouched = [] := by
    refine List.filter_eq_nil_iff.2 fun line hline => ?_
    simp [h line hline]
  rw [untouched, hnone]
  rfl

/-! ### Texts in pieces -/

/-- What is left of a text without its comments, whatever comes after it. -/
def Leaves (text kept : String) : Prop :=
  ∀ rest, withoutComments (text ++ rest) = kept ++ withoutComments rest

theorem Leaves.append {text text' kept kept' : String} (h : Leaves text kept) (h' : Leaves text' kept') :
    Leaves (text ++ text') (kept ++ kept') := by
  intro rest
  rw [String.append_assoc, h, h', String.append_assoc]

theorem leaves_empty : Leaves "" "" := by
  intro rest
  rw [String.empty_append, String.empty_append]

theorem leaves_concat {α : Type} {pieces : List α} {text kept : α → String}
    (h : ∀ piece ∈ pieces, Leaves (text piece) (kept piece)) :
    Leaves (Text.concat (pieces.map text)) (Text.concat (pieces.map kept)) := by
  induction pieces with
  | nil => exact leaves_empty
  | cons piece rest ih =>
    exact (h piece List.mem_cons_self).append (ih fun other hother => h other (List.mem_cons_of_mem _ hother))

theorem Leaves.withoutComments_eq {text kept : String} (h : Leaves text kept) : withoutComments text = kept := by
  have hempty : withoutComments "" = "" := rfl
  have hrest := h ""
  rwa [String.append_empty, hempty, String.append_empty] at hrest

/-- Lines without a slash are kept. -/
theorem leaves_code {code : String} (hslash : '/' ∉ code.toList) (hend : code.toList.getLast? = some '\n') :
    Leaves code code := by
  intro rest
  obtain ⟨text, htext⟩ := List.getLast?_eq_some_iff.1 hend
  have hstays : Stays false code.toList := stays_of_not_mem hslash
  have hlines : untouched (markAll false code.toList ++ markComments false rest.toList) =
      code.toList ++ untouched (markComments false rest.toList) := by
    rw [htext]
    calc untouched (markAll false (text ++ ['\n']) ++ markComments false rest.toList)
        = untouched (markAll false text ++ ⟨'\n', false⟩ :: markComments false rest.toList) := by
          rw [markAll_append, List.append_assoc]
          rfl
      _ = untouched (markAll false (text ++ ['\n'])) ++ untouched (markComments false rest.toList) := by
          rw [untouched_append rfl, markAll_append]
          rfl
      _ = text ++ ['\n'] ++ untouched (markComments false rest.toList) := by rw [untouched_markAll_false]
  rw [withoutComments, String.toList_append, hstays, hlines, String.ofList_append, String.ofList_toList]
  rfl

theorem leaves_append_code {code ending : String} (hcode : '/' ∉ code.toList) (hending : '/' ∉ ending.toList)
    (hend : ending.toList.getLast? = some '\n') : Leaves (code ++ ending) (code ++ ending) := by
  refine leaves_code ?_ ?_
  · rw [String.toList_append, List.mem_append, not_or]
    exact ⟨hcode, hending⟩
  · rw [String.toList_append, List.getLast?_append, hend]
    rfl

/-- A documentation block is dropped, whatever its lines are. -/
theorem leaves_docBlock {indent : String} (hindent : ∀ c ∈ indent.toList, c = ' ') (lines : List String) :
    Leaves (docBlock indent lines) "" := by
  intro rest
  rw [String.empty_append]
  by_cases hlines : lines = []
  · subst hlines
    exact congrArg withoutComments String.empty_append
  have habsent : ∀ {c}, c ≠ ' ' → c ∉ indent.toList := fun hc hmem => hc (hindent _ hmem)
  obtain ⟨comment, hmarks⟩ := markComments_docBlock (habsent (by decide)) (habsent (by decide)) hlines rest.toList
  -- the last line of the block has the slash that ends the comment
  have hlast : AllTouched [⟨'/', true⟩, ⟨'\n', false⟩] := by
    intro line hline
    obtain rfl := List.mem_singleton.1 hline
    rfl
  have hblock : AllTouched (markAll false indent.toList ++ markAll true comment ++ [⟨'/', true⟩, ⟨'\n', false⟩]) := by
    refine hlast.append (List.cons_ne_nil _ _) fun c hc => ?_
    rcases List.mem_append.1 hc with hc | hc
    · obtain ⟨blank, hblank, rfl⟩ := List.mem_map.1 hc
      exact Or.inl (hindent blank hblank ▸ by decide)
    · obtain ⟨_, _, rfl⟩ := List.mem_map.1 hc
      exact Or.inr rfl
  rw [withoutComments, String.toList_append, hmarks, untouched_append rfl, List.append_assoc, List.singleton_append,
    untouched_of_allTouched hblock, List.nil_append]
  rfl

end ProtoClass.TypeScript
