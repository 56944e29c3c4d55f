import CommentTags.Comment.Content
import CommentTags.Proofs.Text.Trim

namespace CommentTags

abbrev Remark := CommentState × Content

namespace CommentState

def Coherent (s : CommentState) : Prop := s.inBlock = true → s.kind = .blockStart

theorem coherent_initial : initial.Coherent := by
  intro h
  cases h

theorem Coherent.kind_ne_single {s : CommentState} (h : s.Coherent) (hs : s.inBlock = true) :
    s.kind ≠ .single := by
  rw [h hs]
  decide

end CommentState

namespace CommentStyle

theorem coherent_blockState (trimmed : Text) (pairs : List (Text × Text)) :
    (blockState trimmed pairs).Coherent := by
  induction pairs with
  | nil => exact CommentState.coherent_initial
  | cons pair pairs ih =>
    obtain ⟨start, close⟩ := pair
    unfold blockState
    split
    · exact fun _ => rfl
    · split
      · intro h
        cases h
      · exact ih

theorem coherent_fresh (style : CommentStyle) (trimmed : Text) :
    (style.fresh trimmed).Coherent := by
  unfold fresh
  split
  · intro h
    cases h
  · exact coherent_blockState trimmed style.blocks

theorem classify_of_open (style : CommentStyle) (s : CommentState) (line start close : Text)
    (h : s.openBlock = some (start, close)) :
    style.classify s line = s ∨ style.classify s line = ⟨close, .blockEnd, none⟩ := by
  rw [classify_open style s line start close h]
  split
  · exact .inr rfl
  · exact .inl rfl

theorem coherent_classify (style : CommentStyle) (s : CommentState) (line : Text)
    (hs : s.Coherent) : (style.classify s line).Coherent := by
  cases h : s.openBlock with
  | none =>
    simp only [classify, h]
    split
    · exact hs
    · exact coherent_fresh style line.trim
  | some pair =>
    obtain ⟨start, close⟩ := pair
    rcases classify_of_open style s line start close h with he | he
    · rwa [he]
    · rw [he]
      intro h
      cases h

end CommentStyle

namespace Content

theorem mem_commentFields {f line delimiter : Text} {kind : LineKind}
    (h : f ∈ commentFields line kind delimiter) : f ∈ line.fields := by
  unfold commentFields at h
  dsimp only at h
  split at h
  · exact (List.dropLast_sublist _).mem h
  · exact h

theorem mem_of_after? {marker f : Text} {fs rest : List Text}
    (h : after? marker fs = some rest) (hf : f ∈ rest) : f ∈ fs := by
  induction fs with
  | nil => cases h
  | cons g fs ih =>
    unfold after? at h
    split at h
    · cases h
      exact List.mem_cons_of_mem _ hf
    · exact List.mem_cons_of_mem _ (ih h)

theorem mem_afterLast {delimiter f : Text} {fs : List Text} (h : f ∈ afterLast delimiter fs) :
    f ∈ fs := by
  rw [afterLast, List.mem_reverse] at h
  exact List.mem_reverse.mp ((List.takeWhile_sublist _).mem h)

theorem trim_ofLine (line marker : Text) (kind : LineKind) (delimiter : Text) :
    (ofLine line marker kind delimiter).text.trim = (ofLine line marker kind delimiter).text := by
  unfold ofLine
  dsimp only
  split
  · rename_i rest h
    exact Text.trim_spaced (fun f hf => mem_commentFields (mem_of_after? h hf))
  · exact Text.trim_spaced (fun f hf => mem_commentFields (mem_afterLast hf))

end Content

namespace CommentStyle

variable (style : CommentStyle) (marker : Text)

theorem trim_feed (s : CommentState) (line : Text) :
    (style.feed marker s line).2.text.trim = (style.feed marker s line).2.text := by
  unfold feed
  dsimp only
  split
  · exact Content.trim_ofLine line marker _ _
  · rfl

theorem isComment_of_found {s : CommentState} {line : Text}
    (h : (style.feed marker s line).2.found = true) :
    (style.feed marker s line).1.kind.isComment = true := by
  unfold feed at h ⊢
  dsimp only at h ⊢
  split at h
  · assumption
  · cases h

def feedLines : CommentState → List Text → List Remark
  | _, [] => []
  | s, line :: rest =>
    let r := style.feed marker s line.dropLineEnd
    r :: feedLines r.1 rest

theorem take_feedLines (s : CommentState) (lines : List Text) (n : ℕ) :
    (style.feedLines marker s lines).take n = style.feedLines marker s (lines.take n) := by
  induction lines generalizing s n with
  | nil => simp [feedLines]
  | cons line rest ih =>
    cases n with
    | zero => rfl
    | succ n => simp only [feedLines, List.take_succ_cons, ih]

theorem drop_feedLines {s : CommentState} {lines : List Text} {i : ℕ} {r : Remark}
    (h : (style.feedLines marker s lines)[i]? = some r) :
    (style.feedLines marker s lines).drop (i + 1) =
      style.feedLines marker r.1 (lines.drop (i + 1)) := by
  induction lines generalizing s i with
  | nil => cases h
  | cons line rest ih =>
    cases i with
    | zero =>
      cases h
      rfl
    | succ i => exact ih h

theorem coherent_of_mem_feedLines {r : Remark} {s : CommentState} {lines : List Text}
    (hs : s.Coherent) (h : r ∈ style.feedLines marker s lines) : r.1.Coherent := by
  induction lines generalizing s with
  | nil => cases h
  | cons line rest ih =>
    have hnext := style.coherent_classify s line.dropLineEnd hs
    rcases List.mem_cons.mp h with rfl | h
    · exact hnext
    · exact ih hnext h

theorem exists_feed_of_mem {r : Remark} {s : CommentState} {lines : List Text}
    (h : r ∈ style.feedLines marker s lines) : ∃ s' line, r = style.feed marker s' line := by
  induction lines generalizing s with
  | nil => cases h
  | cons line rest ih =>
    rcases List.mem_cons.mp h with h | h
    · exact ⟨s, line.dropLineEnd, h⟩
    · exact ih h

end CommentStyle

end CommentTags
