import CommentTags.Console.Line
import CommentTags.Proofs.Text.Split

namespace CommentTags.Console

theorem placeWords_ne_nil (overflow : Overflow) (width : ℕ) (line : Text) (used : ℕ)
    (ws : List Text) : placeWords overflow width line used ws ≠ [] := by
  induction ws generalizing line used with
  | nil => simp [placeWords]
  | cons w ws ih =>
    rw [placeWords]
    dsimp only
    split
    · exact ih _ _
    · exact List.append_ne_nil_of_right_ne_nil _ (ih _ _)

theorem wrapLine_ne_nil (overflow : Overflow) (width : ℕ) (s : Text) :
    wrapLine overflow width s ≠ [] := by
  unfold wrapLine
  dsimp only
  split
  · simp
  · simpa using placeWords_ne_nil overflow width [] 0 (words s)

theorem shownLines_ne_nil (overflow : Overflow) (width : ℕ) (s : Text) :
    shownLines overflow width s ≠ [] := by
  obtain ⟨line, rest, hline⟩ :=
    List.exists_cons_of_ne_nil (Text.splitOn_ne_nil '\n' (dropControls s))
  rw [shownLines, hline, List.flatMap_cons]
  exact List.append_ne_nil_of_left_ne_nil (wrapLine_ne_nil _ _ _) _

theorem ne_nil_of_printed {width : ℕ} {markup text : Text}
    (h : printed width markup = .ok text) : text ≠ [] := by
  unfold printed at h
  simp only [bind, Except.bind] at h
  split at h
  · cases h
  · split at h
    · cases h
    · rename_i lines hlines
      obtain rfl := Except.ok.inj h
      have hne : lines ≠ [] := by
        unfold StyledText.lines at hlines
        dsimp only at hlines
        split at hlines
        · cases hlines
        · obtain rfl := Except.ok.inj hlines
          exact shownLines_ne_nil _ _ _
      obtain ⟨line, rest, rfl⟩ := List.exists_cons_of_ne_nil hne
      simp

end CommentTags.Console
