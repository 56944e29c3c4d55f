import CommentTags.Text
import Mathlib.Data.List.Basic

namespace CommentTags.Text

theorem splitOn_eq (d : Char) (s : Text) : Text.splitOn d s = List.splitOn d s := by
  induction s with
  | nil => rfl
  | cons c s ih =>
    rw [List.splitOn_cons_eq_if_modifyHead, ← ih, Text.splitOn]
    obtain ⟨w, ws, hw⟩ : ∃ w ws, Text.splitOn d s = w :: ws := by
      apply List.exists_cons_of_ne_nil
      rw [ih]
      exact List.splitOn_ne_nil d s
    by_cases hc : c = d <;> simp [hc, hw, consFirst]

theorem splitOn_ne_nil (d : Char) (s : Text) : Text.splitOn d s ≠ [] := by
  rw [splitOn_eq]
  exact List.splitOn_ne_nil d s

theorem splitOn_append (d : Char) (s t : Text) :
    Text.splitOn d (s ++ d :: t) = Text.splitOn d s ++ Text.splitOn d t := by
  simp only [splitOn_eq]
  exact List.splitOn_append_cons_of_beq s t (beq_self_eq_true d)

theorem intercalate_splitOn (d : Char) (s : Text) : [d].intercalate (Text.splitOn d s) = s := by
  rw [splitOn_eq]
  exact List.intercalate_splitOn d

theorem splitOn_of_not_mem {d : Char} {s : Text} (h : d ∉ s) : Text.splitOn d s = [s] := by
  rw [splitOn_eq]
  exact List.splitOn_eq_singleton h

theorem not_mem_of_mem_splitOn {d : Char} {s w : Text} (h : w ∈ Text.splitOn d s) : d ∉ w := by
  induction s generalizing w with
  | nil =>
    obtain rfl := List.mem_singleton.mp h
    exact List.not_mem_nil
  | cons c s ih =>
    unfold Text.splitOn at h
    split at h
    · rcases List.mem_cons.mp h with rfl | h
      · exact List.not_mem_nil
      · exact ih h
    · rename_i hc
      obtain ⟨v, vs, hs⟩ := List.exists_cons_of_ne_nil (splitOn_ne_nil d s)
      rw [hs, consFirst] at h
      rw [hs] at ih
      rcases List.mem_cons.mp h with rfl | h
      · exact List.not_mem_cons_of_ne_of_not_mem (Ne.symm hc) (ih List.mem_cons_self)
      · exact ih (List.mem_cons_of_mem v h)

theorem splitOn_intercalate {d : Char} {ws : List Text} (hne : ws ≠ []) (h : ∀ w ∈ ws, d ∉ w) :
    Text.splitOn d ([d].intercalate ws) = ws := by
  rw [splitOn_eq]
  exact List.splitOn_intercalate d h hne

end CommentTags.Text
