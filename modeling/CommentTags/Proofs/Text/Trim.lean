import CommentTags.Text
import Mathlib.Data.List.DropRight
import Mathlib.Data.List.TakeWhile

namespace CommentTags.Text

theorem dropWhile_eq_self_iff_head? (p : Char → Bool) (s : Text) :
    s.dropWhile p = s ↔ ∀ c ∈ s.head?, p c = false := by
  cases s with
  | nil => simp
  | cons c s => rw [List.dropWhile_eq_self_iff]; simp

theorem dropEndWhile_eq_self_iff (p : Char → Bool) (s : Text) :
    dropEndWhile p s = s ↔ ∀ c ∈ s.getLast?, p c = false := by
  rw [← List.head?_reverse, ← dropWhile_eq_self_iff_head?, dropEndWhile, List.reverse_eq_iff]

theorem dropWhile_beq_eq_self {d : Char} {s : Text} (h : s.head? ≠ some d) :
    s.dropWhile (· == d) = s := by
  rw [dropWhile_eq_self_iff_head?]
  intro c hc
  exact beq_false_of_ne (fun he : c = d => h (he ▸ hc))

theorem dropEndWhile_beq_eq_self {d : Char} {s : Text} (h : s.getLast? ≠ some d) :
    dropEndWhile (· == d) s = s := by
  rw [dropEndWhile_eq_self_iff]
  intro c hc
  exact beq_false_of_ne (fun he : c = d => h (he ▸ hc))

theorem getLast?_dropEndWhile (p : Char → Bool) (s : Text) :
    ∀ c ∈ (dropEndWhile p s).getLast?, p c = false := by
  intro c hc
  rw [dropEndWhile, List.getLast?_reverse] at hc
  have hnot := List.head?_dropWhile_not p s.reverse
  rw [hc] at hnot
  exact hnot

theorem length_dropEndWhile_le (p : Char → Bool) (s : Text) :
    (dropEndWhile p s).length ≤ s.length := by
  have h := (List.dropWhile_sublist p (l := s.reverse)).length_le
  simpa [dropEndWhile] using h

theorem dropEndWhile_append_of_ne_nil (p : Char → Bool) (s : Text) {t : Text}
    (h : dropEndWhile p t ≠ []) : dropEndWhile p (s ++ t) = s ++ dropEndWhile p t := by
  have hne : (t.reverse.dropWhile p).isEmpty = false := by simpa [dropEndWhile] using h
  simp [dropEndWhile, List.dropWhile_append, hne]

theorem dropEndWhile_ne_nil {p : Char → Bool} {s : Text} (h : ∃ c ∈ s, p c = false) :
    dropEndWhile p s ≠ [] := by
  obtain ⟨c, hc, hp⟩ := h
  intro he
  have hall : ∀ x ∈ s.reverse, p x = true := by
    rw [← List.dropWhile_eq_nil_iff]
    simpa [dropEndWhile] using he
  rw [hall c (List.mem_reverse.mpr hc)] at hp
  cases hp

theorem exists_dropEndWhile_append (p : Char → Bool) (s : Text) :
    ∃ t, s = dropEndWhile p s ++ t ∧ ∀ c ∈ t, p c = true := by
  refine ⟨(s.reverse.takeWhile p).reverse, ?_, ?_⟩
  · rw [dropEndWhile, ← List.reverse_append, List.takeWhile_append_dropWhile, List.reverse_reverse]
  · intro c hc
    exact List.mem_takeWhile_imp (List.mem_reverse.mp hc)

theorem dropEndWhile_subset (p : Char → Bool) (s : Text) : dropEndWhile p s ⊆ s := by
  obtain ⟨t, hs, -⟩ := exists_dropEndWhile_append p s
  conv_rhs => rw [hs]
  exact List.subset_append_left _ t

theorem dropEndWhile_append_of_all {p : Char → Bool} {t : Text} (h : ∀ c ∈ t, p c = true)
    (s : Text) : dropEndWhile p (s ++ t) = dropEndWhile p s := by
  have ht : ∀ c ∈ t.reverse, p c = true := fun c hc => h c (List.mem_reverse.mp hc)
  rw [dropEndWhile, List.reverse_append, List.dropWhile_append_of_pos ht]
  rfl

theorem trim_eq_self_iff (s : Text) :
    s.trim = s ↔ (∀ c ∈ s.head?, isBlank c = false) ∧ ∀ c ∈ s.getLast?, isBlank c = false := by
  rw [← dropWhile_eq_self_iff_head?, ← dropEndWhile_eq_self_iff]
  constructor
  · intro h
    have hfront : s.dropWhile isBlank = s := by
      apply (List.dropWhile_sublist isBlank).eq_of_length_le
      have hl := length_dropEndWhile_le isBlank (s.dropWhile isBlank)
      rwa [← trim, h] at hl
    exact ⟨hfront, by rwa [trim, hfront] at h⟩
  · rintro ⟨hfront, hback⟩
    rw [trim, hfront, hback]

theorem trim_eq_nil_iff {s : Text} : s.trim = [] ↔ ∀ c ∈ s, isBlank c = true := by
  constructor
  · intro h c hc
    by_contra hblank
    have hsolid : ∃ d ∈ s.dropWhile isBlank, isBlank d = false := by
      rw [← List.takeWhile_append_dropWhile (p := isBlank) (l := s), List.mem_append] at hc
      rcases hc with hc | hc
      · exact absurd (List.mem_takeWhile_imp hc) hblank
      · exact ⟨c, hc, by simpa using hblank⟩
    exact dropEndWhile_ne_nil hsolid h
  · intro h
    rw [trim, List.dropWhile_eq_nil_iff.mpr h]
    rfl

theorem trim_append_of_blank {t : Text} (h : ∀ c ∈ t, isBlank c = true) (s : Text) :
    trim (s ++ t) = trim s := by
  unfold trim
  rw [List.dropWhile_append]
  split
  · rename_i hs
    rw [List.isEmpty_iff.mp hs, List.dropWhile_eq_nil_iff.mpr h]
  · exact dropEndWhile_append_of_all h _

theorem trim_dropLineEnd (s : Text) : s.dropLineEnd.trim = s.trim := by
  obtain ⟨t, hs, ht⟩ := exists_dropEndWhile_append (fun c => c == '\r' || c == '\n') s
  have hblank : ∀ c ∈ t, isBlank c = true := by
    intro c hc
    have hc := ht c hc
    simp only [Bool.or_eq_true, beq_iff_eq] at hc
    rcases hc with rfl | rfl <;> rfl
  conv_rhs => rw [hs]
  exact (trim_append_of_blank hblank _).symm

theorem trim_intercalate (sep : Text) (ls : List Text) (h : ∀ l ∈ ls, l ≠ [] ∧ l.trim = l) :
    trim (sep.intercalate ls) = sep.intercalate ls := by
  induction ls with
  | nil => rfl
  | cons l ls ih =>
    obtain ⟨hne, ht⟩ := h l List.mem_cons_self
    cases ls with
    | nil => rwa [List.intercalate_singleton]
    | cons l' ls =>
      have ih := ih (fun x hx => h x (List.mem_cons_of_mem _ hx))
      have hne' := (h l' (by simp)).1
      have hrest : sep.intercalate (l' :: ls) ≠ [] := by
        cases ls <;> simp [List.intercalate_cons_cons, hne']
      rw [trim_eq_self_iff] at ht ih ⊢
      rw [List.intercalate_cons_cons]
      constructor
      · rw [List.append_assoc, List.head?_append_of_ne_nil _ hne]
        exact ht.1
      · rw [List.getLast?_append_of_ne_nil _ hrest]
        exact ih.2

theorem mem_fields {f s : Text} (h : f ∈ fields s) : f ≠ [] ∧ ∀ c ∈ f, isBlank c = false := by
  induction s generalizing f with
  | nil => simp [fields] at h
  | cons c s ih =>
    unfold fields at h
    split at h
    · exact ih h
    · rename_i hc
      split at h
      · rcases List.mem_cons.mp h with rfl | h
        · simpa using hc
        · exact ih h
      · cases hs : fields s with
        | nil =>
          rw [hs] at h
          obtain rfl := List.mem_singleton.mp h
          simpa using hc
        | cons w ws =>
          rw [hs] at h ih
          rcases List.mem_cons.mp h with rfl | h
          · have hw := (ih List.mem_cons_self).2
            simpa [hc] using hw
          · exact ih (List.mem_cons_of_mem _ h)

theorem trim_field {f s : Text} (h : f ∈ fields s) : f.trim = f := by
  have hf := (mem_fields h).2
  rw [trim_eq_self_iff]
  exact ⟨fun c hc => hf c (List.mem_of_mem_head? hc), fun c hc => hf c (List.mem_of_getLast? hc)⟩

theorem trim_spaced {fs : List Text} {s : Text} (h : ∀ f ∈ fs, f ∈ fields s) :
    trim (spaced fs) = spaced fs :=
  trim_intercalate _ _ (fun f hf => ⟨(mem_fields (h f hf)).1, trim_field (h f hf)⟩)

end CommentTags.Text
