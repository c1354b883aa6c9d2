import ProtoClass.Text.Blank

/-!
# Joined pieces

How pieces that are written one after the other, and pieces with a separator between neighbours, begin and end.
-/

namespace ProtoClass.Text

variable {separator : String} {pieces : List String}

theorem concat_append (pieces others : List String) : concat (pieces ++ others) = concat pieces ++ concat others := by
  induction pieces with
  | nil => exact (String.empty_append).symm
  | cons piece rest ih =>
    show piece ++ concat (rest ++ others) = piece ++ concat rest ++ concat others
    rw [ih, String.append_assoc]

theorem joinWith_cons (piece : String) (h : pieces ≠ []) :
    joinWith separator (piece :: pieces) = piece ++ separator ++ joinWith separator pieces := by
  cases pieces with
  | nil => exact absurd rfl h
  | cons next rest => rfl

theorem joinWith_concat (h : pieces ≠ []) (piece : String) :
    joinWith separator (pieces ++ [piece]) = joinWith separator pieces ++ separator ++ piece := by
  induction pieces with
  | nil => exact absurd rfl h
  | cons first rest ih =>
    cases rest with
    | nil => rfl
    | cons second rest =>
      have hrest := ih (List.cons_ne_nil second rest)
      rw [List.cons_append, joinWith_cons first (by simp), hrest, joinWith_cons first (by simp)]
      simp only [String.append_assoc]

end ProtoClass.Text
