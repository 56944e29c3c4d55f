import CommentTags.Proofs.Json.Characters
import CommentTags.Proofs.Json.Framing
import CommentTags.Proofs.Text.Split

namespace CommentTags.Json

def IsPlain (j : Json) : Prop := ∃ depth, Plain (fun _ => True) depth j

theorem IsPlain.isVisible_of_mem_line {j : Json} (h : j.IsPlain) : ∀ c ∈ j.line, IsVisible c := by
  obtain ⟨depth, hplain⟩ := h
  exact forall_mem_write (fun _ hc => hc) (fun _ => List.forall_mem_nil _) hplain 0

theorem IsPlain.newLine_not_mem_line {j : Json} (h : j.IsPlain) : '\n' ∉ j.line := by
  intro hmem
  exact absurd (h.isVisible_of_mem_line _ hmem) (by decide)

theorem IsPlain.eq_of_line_eq {j j' : Json} (h : j.IsPlain) (h' : j'.IsPlain)
    (hline : j.line = j'.line) : j = j' := by
  obtain ⟨depth, hplain⟩ := h
  obtain ⟨depth', hplain'⟩ := h'
  exact write_injective hplain hplain' hline

theorem parse_line {room : ℕ} {j : Json} (h : Plain IsShort room j) :
    parse j.line room = .ok j := by
  have hparse := parse_write h .oneLine 0 (List.forall_mem_nil _)
  rw [List.append_nil] at hparse
  exact hparse

def stream (docs : List Json) : Text := docs.flatMap (fun j => j.line ++ ['\n'])

variable {docs docs' : List Json}

theorem splitOn_stream (h : ∀ j ∈ docs, j.IsPlain) :
    Text.splitOn '\n' (stream docs) = docs.map line ++ [[]] := by
  induction docs with
  | nil => rfl
  | cons j docs ih =>
    rw [List.forall_mem_cons] at h
    have hcons : stream (j :: docs) = j.line ++ '\n' :: stream docs := by
      rw [stream, List.flatMap_cons, List.append_assoc]
      rfl
    rw [hcons, Text.splitOn_append, Text.splitOn_of_not_mem h.1.newLine_not_mem_line, ih h.2]
    rfl

theorem stream_injective (h : ∀ j ∈ docs, j.IsPlain) (h' : ∀ j ∈ docs', j.IsPlain)
    (hstream : stream docs = stream docs') : docs = docs' := by
  have hlines : docs.map line = docs'.map line := by
    have hsplit : docs.map line ++ [[]] = docs'.map line ++ [[]] := by
      rw [← splitOn_stream h, ← splitOn_stream h', hstream]
    exact List.append_cancel_right hsplit
  clear hstream
  induction docs generalizing docs' with
  | nil => exact (List.map_eq_nil_iff.mp hlines.symm).symm
  | cons j docs ih =>
    cases docs' with
    | nil => cases hlines
    | cons j' docs' =>
      rw [List.forall_mem_cons] at h h'
      obtain ⟨hline, hrest⟩ := List.cons.inj hlines
      rw [h.1.eq_of_line_eq h'.1 hline, ih h.2 h'.2 hrest]

end CommentTags.Json
