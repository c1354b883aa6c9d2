import ProtoClass.Proofs.Files.Tree
import ProtoClass.Proofs.Text.Joining

/-!
# Where import specifiers lead

A module names another one by a path from its own directory.  Followed part by part, the path always leads to the
other module; but only a path that begins with `./` or `../` is read as one, and this one does so exactly if the
way down does not begin with a part that itself begins with two dots (`specifier_leads_to_module`).
-/

namespace ProtoClass.ModulePath

/-! ### Parts of a path -/

/-- The parts of a path before the last one. -/
def dirs (path : String) : List String :=
  (segments path).dropLast

theorem segmentsFrom_ne_nil (current text : List Char) : segmentsFrom current text ≠ [] := by
  induction text generalizing current with
  | nil => simp [segmentsFrom]
  | cons c rest ih =>
    unfold segmentsFrom
    split
    · simp
    · exact ih _

theorem segmentsFrom_append_slash {word : List Char} (h : '/' ∉ word) (current rest : List Char) :
    segmentsFrom current (word ++ '/' :: rest) =
      String.ofList (current.reverse ++ word) :: segmentsFrom [] rest := by
  induction word generalizing current with
  | nil => simp [segmentsFrom]
  | cons c word ih =>
    rw [List.mem_cons, not_or] at h
    rw [List.cons_append, segmentsFrom, if_neg (Ne.symm h.1), ih h.2]
    simp

theorem segmentsFrom_of_not_mem {word : List Char} (h : '/' ∉ word) (current : List Char) :
    segmentsFrom current word = [String.ofList (current.reverse ++ word)] := by
  induction word generalizing current with
  | nil => simp [segmentsFrom]
  | cons c word ih =>
    rw [List.mem_cons, not_or] at h
    rw [segmentsFrom, if_neg (Ne.symm h.1), ih h.2]
    simp

theorem joinWith_segmentsFrom (current text : List Char) :
    Text.joinWith "/" (segmentsFrom current text) = String.ofList (current.reverse ++ text) := by
  induction text generalizing current with
  | nil => simp [segmentsFrom, Text.joinWith]
  | cons c rest ih =>
    unfold segmentsFrom
    split
    · rename_i hc
      rw [Text.joinWith_cons _ (segmentsFrom_ne_nil _ _), ih, hc, ← String.toList_inj]
      simp
    · rw [ih]
      simp

/-- The parts with slashes between them are the path. -/
theorem joinWith_segments (path : String) : Text.joinWith "/" (segments path) = path := by
  simp [segments, joinWith_segmentsFrom]

theorem not_mem_of_mem_segmentsFrom {current text : List Char} (h : '/' ∉ current) {part : String}
    (hpart : part ∈ segmentsFrom current text) : '/' ∉ part.toList := by
  induction text generalizing current with
  | nil =>
    rw [segmentsFrom, List.mem_singleton] at hpart
    simpa [hpart] using h
  | cons c rest ih =>
    unfold segmentsFrom at hpart
    split at hpart
    · rcases List.mem_cons.1 hpart with rfl | hpart
      · simpa using h
      · exact ih (by simp) hpart
    · rename_i hc
      refine ih ?_ hpart
      rw [List.mem_cons, not_or]
      exact ⟨Ne.symm hc, h⟩

/-- No part has a slash in it. -/
theorem not_mem_of_mem_segments {path part : String} (h : part ∈ segments path) : '/' ∉ part.toList :=
  not_mem_of_mem_segmentsFrom (by simp) h

/-- A path put together from parts has these parts. -/
theorem segments_joinWith {parts : List String} (hne : parts ≠ []) (h : ∀ part ∈ parts, '/' ∉ part.toList) :
    segments (Text.joinWith "/" parts) = parts := by
  induction parts with
  | nil => exact absurd rfl hne
  | cons first rest ih =>
    have hfirst := h first List.mem_cons_self
    by_cases hrest : rest = []
    · subst hrest
      simp [segments, Text.joinWith, segmentsFrom_of_not_mem hfirst]
    · have htext : (Text.joinWith "/" (first :: rest)).toList =
          first.toList ++ '/' :: (Text.joinWith "/" rest).toList := by
        simp [Text.joinWith_cons first hrest]
      have hparts : segmentsFrom [] (Text.joinWith "/" rest).toList = rest :=
        ih hrest fun part hpart => h part (List.mem_cons_of_mem _ hpart)
      rw [segments, htext, segmentsFrom_append_slash hfirst, hparts]
      simp

/-- The last part takes up what is written after a path, if that has no slash in it. -/
theorem segments_append {path word last : String} {outer : List String} (hpath : segments path = outer ++ [last])
    (hword : '/' ∉ word.toList) : segments (path ++ word) = outer ++ [last ++ word] := by
  have hparts : path ++ word = Text.joinWith "/" (outer ++ [last ++ word]) := by
    rw [← joinWith_segments path, hpath]
    by_cases houter : outer = []
    · subst houter
      rfl
    · rw [Text.joinWith_concat houter, Text.joinWith_concat houter]
      simp only [String.append_assoc]
  rw [hparts]
  refine segments_joinWith (by simp) ?_
  intro part hpart
  rcases List.mem_append.1 hpart with hpart | hpart
  · exact not_mem_of_mem_segments (hpath ▸ List.mem_append_left _ hpart)
  · have hlast : '/' ∉ last.toList := not_mem_of_mem_segments (hpath ▸ List.mem_append_right _ List.mem_cons_self)
    rw [List.mem_singleton.1 hpart]
    simp [hlast, hword]

theorem exists_segments (path : String) : ∃ last, segments path = dirs path ++ [last] := by
  have hne : segments path ≠ [] := segmentsFrom_ne_nil _ _
  exact ⟨(segments path).getLast hne, (List.dropLast_concat_getLast hne).symm⟩

theorem dirs_append (path : String) {word : String} (h : '/' ∉ word.toList) : dirs (path ++ word) = dirs path := by
  obtain ⟨last, hpath⟩ := exists_segments path
  rw [dirs, segments_append hpath h, List.dropLast_concat]

/-! ### Paths of modules -/

/-- A schema file may or may not be called by its extension. -/
theorem stem_cases (file : String) :
    (∃ name, file = name ++ ".proto" ∧ stem file = name ++ "_pb") ∨ stem file = file ++ "_pb" := by
  unfold stem
  split
  · rename_i rest hfile
    refine Or.inl ⟨String.ofList rest.reverse, ?_, rfl⟩
    have htext : file.toList = rest.reverse ++ ".proto".toList := by
      rw [← List.reverse_reverse file.toList, hfile]
      simp
    rw [← String.toList_inj, String.toList_append, htext]
    simp
  · exact Or.inr rfl

/-- The module of a schema file stands in the directory of the file, under a name of its own. -/
theorem exists_segments_stem (file : String) : ∃ name, segments (stem file) = dirs file ++ [name ++ "_pb"] := by
  rcases stem_cases file with ⟨path, rfl, hstem⟩ | hstem
  · obtain ⟨last, hpath⟩ := exists_segments path
    refine ⟨last, ?_⟩
    rw [hstem, segments_append hpath (by decide), dirs_append path (by decide)]
  · obtain ⟨last, hfile⟩ := exists_segments file
    exact ⟨last, by rw [hstem, segments_append hfile (by decide)]⟩

theorem dirs_stem (file : String) : dirs (stem file) = dirs file := by
  obtain ⟨name, hstem⟩ := exists_segments_stem file
  rw [dirs, hstem, List.dropLast_concat]

theorem dirs_ofSchemaFile (file : String) : dirs (ofSchemaFile file) = dirs file := by
  rw [ofSchemaFile, dirs_append _ (by decide), dirs_stem]

/-! ### The way from one module to another -/

theorem sharedLength_le (source target : List String) :
    sharedLength source target ≤ source.length ∧ sharedLength source target ≤ target.length := by
  fun_induction sharedLength source target with
  | case1 part rest rest' ih => simpa using ih
  | case2 part rest other rest' h => simp
  | case3 source target h => simp

theorem take_sharedLength (source target : List String) :
    source.take (sharedLength source target) = target.take (sharedLength source target) := by
  fun_induction sharedLength source target with
  | case1 part rest rest' ih => simpa using ih
  | case2 part rest other rest' h => simp
  | case3 source target h => simp

theorem sharedLength_append (source target : List String) : sharedLength source (source ++ target) = source.length := by
  induction source with
  | nil => simp [sharedLength]
  | cons part rest ih => simp [sharedLength, ih]

/-- Parts that name something: none is empty, and none is a single dot or two dots. -/
def AreNames (parts : List String) : Prop :=
  ∀ part ∈ parts, part ≠ "" ∧ part ≠ "." ∧ part ≠ ".."

instance (parts : List String) : Decidable (AreNames parts) :=
  inferInstanceAs (Decidable (∀ part ∈ parts, part ≠ "" ∧ part ≠ "." ∧ part ≠ ".."))

/-- The way from the directory of one schema file to the module of another: up to where the directories part, and down
from there. -/
def route (source target : String) : List String :=
  List.replicate ((dirs source).length - sharedLength (dirs source) (dirs target)) ".." ++
    (segments (stem target)).drop (sharedLength (dirs source) (dirs target))

/-- The specifier is the way, with a dot in front unless it begins with two dots. -/
theorem specifier_eq (source target : String) :
    specifier source target =
      if "..".toList <+: (Text.joinWith "/" (route source target)).toList then Text.joinWith "/" (route source target)
      else Text.joinWith "/" ("." :: route source target) := by
  obtain ⟨last, hstem⟩ := exists_segments (stem target)
  rw [dirs_stem] at hstem
  have hroute : route source target =
      List.replicate ((dirs source).length - sharedLength (dirs source) (dirs target)) ".." ++
        (dirs target).drop (sharedLength (dirs source) (dirs target)) ++ [last] := by
    rw [route, hstem, List.drop_append_of_le_length (sharedLength_le _ _).2, List.append_assoc]
  have hne : route source target ≠ [] := by simp [hroute]
  have hdirs : (segments source).dropLast = dirs source := rfl
  unfold specifier
  simp only [hdirs, hstem, List.dropLast_concat, List.getLastD_concat, ← hroute]
  split
  · rename_i rest htext
    rw [if_pos ⟨rest, htext.symm⟩]
  · rename_i hdots
    rw [if_neg, Text.joinWith_cons "." hne]
    · rfl
    · rintro ⟨rest, htext⟩
      exact hdots rest htext.symm

theorem areNames_stem {file : String} (h : AreNames (segments file)) : AreNames (segments (stem file)) := by
  obtain ⟨name, hstem⟩ := exists_segments_stem file
  intro part hpart
  rw [hstem] at hpart
  rcases List.mem_append.1 hpart with hpart | hpart
  · exact h part (List.dropLast_subset _ hpart)
  · -- the last part ends in a letter
    have hends : part.toList.getLast? = some 'b' := by
      rw [List.mem_singleton.1 hpart]
      simp
    refine ⟨?_, ?_, ?_⟩ <;> rintro rfl <;> cases hends

/-- The parts of the way: two dots, and names. -/
theorem mem_route {source target part : String} (htarget : AreNames (segments target))
    (h : part ∈ route source target) : '/' ∉ part.toList ∧ part ≠ "" ∧ part ≠ "." := by
  rcases List.mem_append.1 h with hup | hdown
  · rw [List.eq_of_mem_replicate hup]
    decide
  · have hpart := List.mem_of_mem_drop hdown
    obtain ⟨hempty, hdot, _⟩ := areNames_stem htarget part hpart
    exact ⟨not_mem_of_mem_segments hpart, hempty, hdot⟩

-- the way down has the module at its end
private theorem drop_stem_ne_nil (source target : String) :
    (segments (stem target)).drop (sharedLength (dirs source) (dirs target)) ≠ [] := by
  obtain ⟨last, hstem⟩ := exists_segments (stem target)
  have hle := (sharedLength_le (dirs source) (dirs target)).2
  rw [hstem, dirs_stem, ne_eq, List.drop_eq_nil_iff, List.length_append, List.length_singleton]
  omega

theorem route_ne_nil (source target : String) : route source target ≠ [] :=
  List.append_ne_nil_of_right_ne_nil _ (drop_stem_ne_nil source target)

/-- The names in a specifier are the parts of the way. -/
theorem names_specifier {source target : String} (htarget : AreNames (segments target)) :
    FileTree.names (specifier source target) = route source target := by
  have hslash : ∀ part ∈ route source target, '/' ∉ part.toList := fun part hpart => (mem_route htarget hpart).1
  have hkept : (route source target).filter (fun s => !(s.isEmpty || s == ".")) = route source target := by
    refine List.filter_eq_self.2 fun part hpart => ?_
    obtain ⟨_, hempty, hdot⟩ := mem_route htarget hpart
    simp [hempty, hdot]
  rw [FileTree.names, specifier_eq]
  split
  · rw [segments_joinWith (route_ne_nil source target) hslash, hkept]
  · rw [segments_joinWith (List.cons_ne_nil _ _) (List.forall_mem_cons.2 ⟨by decide, hslash⟩),
      List.filter_cons_of_neg (by decide), hkept]

-- the directories of the two files agree as far as they are shared
private theorem take_dirs (source target : String) :
    (dirs source).take (sharedLength (dirs source) (dirs target)) =
      (segments (stem target)).take (sharedLength (dirs source) (dirs target)) := by
  obtain ⟨last, hstem⟩ := exists_segments (stem target)
  rw [hstem, dirs_stem, List.take_append_of_le_length (sharedLength_le _ _).2]
  exact take_sharedLength _ _

/-- The way leads to the module. -/
theorem descend_route {source target : String} (htarget : AreNames (segments target)) :
    FileTree.descend (dirs source) (route source target) = segments (stem target) := by
  let shared := sharedLength (dirs source) (dirs target)
  have hle : shared ≤ (dirs source).length := (sharedLength_le _ _).1
  have hup : (dirs source).length - ((dirs source).length - shared) = shared := by omega
  have hdown : ".." ∉ (segments (stem target)).drop shared := by
    intro hmem
    exact (areNames_stem htarget ".." (List.mem_of_mem_drop hmem)).2.2 rfl
  rw [route, FileTree.descend_append, FileTree.descend_replicate, FileTree.descend_of_not_mem _ hdown, hup, take_dirs,
    List.take_append_drop]

/-! ### Relative specifiers -/

/-- A specifier that is read as a path from the directory of the module. -/
def IsRelative (specifier : String) : Prop :=
  "./".toList <+: specifier.toList ∨ "../".toList <+: specifier.toList

instance (specifier : String) : Decidable (IsRelative specifier) :=
  inferInstanceAs (Decidable ("./".toList <+: specifier.toList ∨ "../".toList <+: specifier.toList))

-- after the first part comes a slash, or nothing
private theorem exists_toList_joinWith (first : String) (others : List String) :
    ∃ after, (Text.joinWith "/" (first :: others)).toList = first.toList ++ after ∧
      (after = [] ∨ ∃ text, after = '/' :: text) := by
  by_cases hothers : others = []
  · subst hothers
    exact ⟨[], by simp [Text.joinWith], Or.inl rfl⟩
  · refine ⟨'/' :: (Text.joinWith "/" others).toList, ?_, Or.inr ⟨_, rfl⟩⟩
    simp [Text.joinWith_cons first hothers]

theorem twoDots_joinWith_iff (first : String) (others : List String) :
    "..".toList <+: (Text.joinWith "/" (first :: others)).toList ↔ "..".toList <+: first.toList := by
  obtain ⟨after, htext, hafter⟩ := exists_toList_joinWith first others
  rw [htext]
  -- two characters decide, and a slash is no dot
  rcases first.toList with _ | ⟨a, _ | ⟨b, rest⟩⟩ <;> rcases hafter with rfl | ⟨text, rfl⟩ <;> simp

/-- Parts that begin with two dots but are more than that do not make a relative specifier. -/
theorem not_isRelative_joinWith {first : String} {others : List String} (hdots : "..".toList <+: first.toList)
    (hslash : '/' ∉ first.toList) (hne : first ≠ "..") : ¬ IsRelative (Text.joinWith "/" (first :: others)) := by
  obtain ⟨after, htext, _⟩ := exists_toList_joinWith first others
  obtain ⟨rest, hfirst⟩ := hdots
  have hrest : rest ≠ [] := by
    rintro rfl
    exact hne (String.toList_inj.1 (by rw [← hfirst]; rfl))
  obtain ⟨c, rest', rfl⟩ := List.exists_cons_of_ne_nil hrest
  have hc : c ≠ '/' := by
    rintro rfl
    exact hslash (by rw [← hfirst]; simp)
  rw [IsRelative, htext, ← hfirst]
  simp [Ne.symm hc]

/-- The way to a module outside the directory begins with two dots. -/
theorem isRelative_of_lt {source target : String}
    (h : sharedLength (dirs source) (dirs target) < (dirs source).length) : IsRelative (specifier source target) := by
  obtain ⟨n, hn⟩ := Nat.exists_eq_add_one_of_ne_zero (Nat.sub_ne_zero_of_lt h)
  let others := List.replicate n ".." ++ (segments (stem target)).drop (sharedLength (dirs source) (dirs target))
  have hroute : route source target = ".." :: others := by
    rw [route, hn, List.replicate_succ, List.cons_append]
  have hothers : others ≠ [] := List.append_ne_nil_of_right_ne_nil _ (drop_stem_ne_nil source target)
  rw [specifier_eq, hroute, if_pos ((twoDots_joinWith_iff _ _).2 (List.prefix_refl _)),
    Text.joinWith_cons _ hothers]
  exact Or.inr ⟨(Text.joinWith "/" others).toList, by simp⟩

variable {source target part : String} {rest : List String}

theorem sharedLength_of_segments (h : segments (stem target) = dirs source ++ part :: rest) :
    sharedLength (dirs source) (dirs target) = (dirs source).length := by
  have htarget : dirs target = dirs source ++ (part :: rest).dropLast := by
    rw [← dirs_stem target, ← List.dropLast_append_cons, ← h]
    rfl
  rw [htarget, sharedLength_append]

/-- The way to a module inside the directory leads down only. -/
theorem route_of_segments (h : segments (stem target) = dirs source ++ part :: rest) :
    route source target = part :: rest := by
  rw [route, sharedLength_of_segments h, h]
  simp

/-- Inside the directory a specifier is relative unless the way down begins with a part that begins with two dots. -/
theorem isRelative_iff_of_segments (htarget : AreNames (segments target))
    (h : segments (stem target) = dirs source ++ part :: rest) :
    IsRelative (specifier source target) ↔ ¬ "..".toList <+: part.toList := by
  have hpart : part ∈ segments (stem target) := by simp [h]
  have hfirst := twoDots_joinWith_iff part rest
  rw [specifier_eq, route_of_segments h]
  by_cases hdots : "..".toList <+: part.toList
  · rw [if_pos (hfirst.2 hdots)]
    have hslash : '/' ∉ part.toList := not_mem_of_mem_segments hpart
    have hname : part ≠ ".." := (areNames_stem htarget part hpart).2.2
    exact iff_of_false (not_isRelative_joinWith hdots hslash hname) (not_not.2 hdots)
  · rw [if_neg fun hjoined => hdots (hfirst.1 hjoined), Text.joinWith_cons "." (List.cons_ne_nil _ _)]
    exact iff_of_true (Or.inl ⟨(Text.joinWith "/" (part :: rest)).toList, by simp⟩) hdots

/-- Followed name by name from the directory of a module, the specifier of another one leads to the path of that module
without its extension.  The specifier is relative, except that the two files stand so that the way leads down only and
its first part begins with two dots.  The parts of the source stand for directories as they are written: for the place
on disk they have to be names, too. -/
theorem specifier_leads_to_module (source target : String) (htarget : AreNames (segments target)) :
    Text.joinWith "/" (FileTree.descend (dirs (ofSchemaFile source)) (FileTree.names (specifier source target)))
        ++ ".ts" = ofSchemaFile target ∧
      (IsRelative (specifier source target) ↔
        ∀ part rest, segments (stem target) = dirs source ++ part :: rest → ¬ "..".toList <+: part.toList) := by
  constructor
  · rw [names_specifier htarget, dirs_ofSchemaFile, descend_route htarget, joinWith_segments]
    rfl
  · by_cases hlt : sharedLength (dirs source) (dirs target) < (dirs source).length
    · refine iff_of_true (isRelative_of_lt hlt) fun part rest hparts => ?_
      have := sharedLength_of_segments hparts
      omega
    · have heq : sharedLength (dirs source) (dirs target) = (dirs source).length :=
        Nat.le_antisymm (sharedLength_le _ _).1 (Nat.not_lt.1 hlt)
      have htake := take_dirs source target
      have hdrop := drop_stem_ne_nil source target
      rw [heq] at htake hdrop
      obtain ⟨part, rest, hrest⟩ := List.exists_cons_of_ne_nil hdrop
      have hparts : segments (stem target) = dirs source ++ part :: rest := by
        rw [← hrest, ← List.take_append_drop (dirs source).length (segments (stem target)), ← htake]
        simp
      rw [isRelative_iff_of_segments htarget hparts]
      constructor
      · intro hdots part' rest' hparts'
        rw [hparts] at hparts'
        cases List.append_cancel_left hparts'
        exact hdots
      · intro hdots
        exact hdots part rest hparts

/-- From a directory that the target shares in part, through one whose name begins with two dots. -/
theorem specifier_leads_to_module_crossing :
    AreNames (segments "a/b/shapes.proto") ∧ AreNames (segments "a/..c/d/parts.proto") ∧
      specifier "a/b/shapes.proto" "a/..c/d/parts.proto" = "../..c/d/parts_pb" ∧
      Text.joinWith "/" (FileTree.descend ["a", "b"] (FileTree.names "../..c/d/parts_pb")) ++ ".ts" =
        "a/..c/d/parts_pb.ts" ∧
      IsRelative "../..c/d/parts_pb" := by
  have hspecifier : specifier "a/b/shapes.proto" "a/..c/d/parts.proto" = "../..c/d/parts_pb" := by decide +kernel
  have hdirs : dirs (ofSchemaFile "a/b/shapes.proto") = ["a", "b"] := by decide +kernel
  have htarget : ofSchemaFile "a/..c/d/parts.proto" = "a/..c/d/parts_pb.ts" := by decide +kernel
  have hnames : AreNames (segments "a/..c/d/parts.proto") := by decide +kernel
  obtain ⟨hleads, hrelative⟩ := specifier_leads_to_module "a/b/shapes.proto" "a/..c/d/parts.proto" hnames
  rw [hspecifier, hdirs, htarget] at hleads
  rw [hspecifier] at hrelative
  refine ⟨by decide +kernel, hnames, hspecifier, hleads, hrelative.2 fun part rest hparts => ?_⟩
  have hstem : segments (stem "a/..c/d/parts.proto") = ["a", "..c", "d", "parts_pb"] := by decide +kernel
  have hsource : dirs "a/b/shapes.proto" = ["a", "b"] := by decide +kernel
  rw [hstem, hsource] at hparts
  simp at hparts

/-- The specifier of a module whose name begins with two dots, in the directory of the other one, is not relative. -/
theorem specifier_not_relative :
    AreNames (segments "shapes.proto") ∧ AreNames (segments "..parts.proto") ∧
      ¬ IsRelative (specifier "shapes.proto" "..parts.proto") := by
  decide +kernel

end ProtoClass.ModulePath
