import CommentTags.Proofs.Comment.Lines
import CommentTags.Proofs.Text.Fields

namespace CommentTags.Content

/-- What a line of these fields says and whether it is marked: the fields behind the first marker,
or else those behind the last delimiter. -/
inductive Says (marker delimiter : Text) (fs : List Text) : List Text → Bool → Prop
  | marked {before said : List Text} (split : fs = before ++ marker :: said)
      (first : marker ∉ before) : Says marker delimiter fs said true
  | delimited {before said : List Text} (unmarked : marker ∉ fs)
      (split : fs = before ++ delimiter :: said) (last : delimiter ∉ said) :
      Says marker delimiter fs said false
  | whole (unmarked : marker ∉ fs) (undelimited : delimiter ∉ fs) :
      Says marker delimiter fs fs false

variable {marker delimiter : Text}

theorem after?_eq_none {fs : List Text} (h : marker ∉ fs) : after? marker fs = none := by
  rw [← Option.isNone_iff_eq_none, ← Option.isSome_eq_false_iff, Bool.eq_false_iff]
  rwa [ne_eq, after?_isSome_iff]

theorem after?_append_cons {before : List Text} (h : marker ∉ before) (rest : List Text) :
    after? marker (before ++ marker :: rest) = some rest := by
  induction before with
  | nil => simp [after?]
  | cons f before ih =>
    have hf : f ≠ marker := (List.ne_of_not_mem_cons h).symm
    rw [List.cons_append, after?, if_neg hf, ih (List.not_mem_of_not_mem_cons h)]

theorem bne_of_mem_reverse {fs : List Text} (h : delimiter ∉ fs) :
    ∀ f ∈ fs.reverse, (f != delimiter) = true := by
  intro f hf
  rw [bne_iff_ne]
  rintro rfl
  exact h (List.mem_reverse.mp hf)

theorem afterLast_of_not_mem {fs : List Text} (h : delimiter ∉ fs) :
    afterLast delimiter fs = fs := by
  rw [afterLast, List.takeWhile_eq_self_iff.mpr (bne_of_mem_reverse h), List.reverse_reverse]

theorem afterLast_append_cons {rest : List Text} (h : delimiter ∉ rest) (before : List Text) :
    afterLast delimiter (before ++ delimiter :: rest) = rest := by
  rw [afterLast, List.reverse_append, List.reverse_cons, List.append_assoc,
    List.takeWhile_append_of_pos (bne_of_mem_reverse h)]
  simp

namespace Says

variable {fs said : List Text} {found : Bool}

theorem found_iff (h : Says marker delimiter fs said found) : found = true ↔ marker ∈ fs := by
  cases h with
  | marked split first => simp [split]
  | delimited unmarked split last => simp [unmarked]
  | whole unmarked undelimited => simp [unmarked]

theorem subset (h : Says marker delimiter fs said found) : said ⊆ fs := by
  cases h with
  | marked split first =>
    rw [split]
    exact List.subset_append_of_subset_right _ (List.subset_cons_self _ _)
  | delimited unmarked split last =>
    rw [split]
    exact List.subset_append_of_subset_right _ (List.subset_cons_self _ _)
  | whole unmarked undelimited => exact List.Subset.refl fs

theorem of_found (h : Says marker delimiter fs said true) :
    ∃ before, fs = before ++ marker :: said ∧ marker ∉ before := by
  cases h with
  | marked split first => exact ⟨_, split, first⟩

theorem of_not_found (h : Says marker delimiter fs said false) :
    (delimiter ∈ fs → ∃ before, fs = before ++ delimiter :: said) ∧
      (delimiter ∉ fs → said = fs) ∧ marker ∉ said ∧ delimiter ∉ said := by
  have hmarker : marker ∉ said := by
    intro hmem
    exact absurd (h.found_iff.mpr (h.subset hmem)) Bool.false_ne_true
  cases h with
  | delimited unmarked split last =>
    refine ⟨fun _ => ⟨_, split⟩, fun hnone => ?_, hmarker, last⟩
    exact absurd (split ▸ List.mem_append_right _ List.mem_cons_self) hnone
  | whole unmarked undelimited =>
    exact ⟨fun hmem => absurd hmem undelimited, fun _ => rfl, hmarker, undelimited⟩

theorem ofLine_eq {line : Text} {kind : LineKind}
    (h : Says marker delimiter (commentFields line kind delimiter) said found) :
    ofLine line marker kind delimiter = ⟨Text.spaced said, found⟩ := by
  unfold ofLine
  dsimp only
  cases h with
  | marked split first => rw [split, after?_append_cons first]
  | delimited unmarked split last =>
    rw [after?_eq_none unmarked, split, afterLast_append_cons last]
  | whole unmarked undelimited =>
    rw [after?_eq_none unmarked, afterLast_of_not_mem undelimited]

theorem fields_spaced {line : Text} {kind : LineKind}
    (h : Says marker delimiter (commentFields line kind delimiter) said found) :
    (Text.spaced said).fields = said :=
  Text.fields_spaced (fun _ hf => Text.mem_fields (mem_commentFields (h.subset hf)))

end Says

section Pass

def pass (marker delimiter : Text) (kept : List Text) : List Text → List Text × Bool
  | [] => (kept, false)
  | f :: fs =>
    if f = marker then (fs, true)
    else pass marker delimiter (if f = delimiter then fs else kept) fs

/-- No field gone by is the marker, and what is kept stands behind the last delimiter of them. -/
structure Keeps (marker delimiter : Text) (gone kept left : List Text) : Prop where
  unmarked : marker ∉ gone
  behind : (delimiter ∉ gone ∧ kept = gone ++ left) ∨
    ∃ before tail, gone = before ++ delimiter :: tail ∧ delimiter ∉ tail ∧ kept = tail ++ left

variable {gone kept left : List Text}

theorem Keeps.step {f : Text} (h : Keeps marker delimiter gone kept (f :: left))
    (hf : f ≠ marker) :
    Keeps marker delimiter (gone ++ [f]) (if f = delimiter then left else kept) left := by
  obtain ⟨hmarker, hbehind⟩ := h
  constructor
  · simp [hmarker, Ne.symm hf]
  by_cases hd : f = delimiter
  · exact .inr ⟨gone, [], by rw [hd], List.not_mem_nil, if_pos hd⟩
  rw [if_neg hd]
  rcases hbehind with ⟨hnone, hkept⟩ | ⟨before, tail, hgone, hlast, hkept⟩
  · exact .inl ⟨by simp [hnone, Ne.symm hd], by simp [hkept]⟩
  · exact .inr ⟨before, tail ++ [f], by simp [hgone], by simp [hlast, Ne.symm hd],
      by simp [hkept]⟩

theorem Keeps.says_pass (h : Keeps marker delimiter gone kept left) :
    Says marker delimiter (gone ++ left) (pass marker delimiter kept left).1
      (pass marker delimiter kept left).2 := by
  -- What is left gets shorter, so the fields gone by and what is kept of them have to vary.
  induction left generalizing gone kept with
  | nil =>
    obtain ⟨hmarker, hbehind⟩ := h
    rw [List.append_nil]
    rcases hbehind with ⟨hnone, rfl⟩ | ⟨before, tail, hgone, hlast, rfl⟩
    · rw [List.append_nil]
      exact .whole hmarker hnone
    · rw [List.append_nil]
      exact .delimited hmarker hgone hlast
  | cons f left ih =>
    unfold pass
    by_cases hf : f = marker
    · rw [if_pos hf]
      exact .marked (by rw [hf]) h.unmarked
    · rw [if_neg hf, List.append_cons]
      exact ih (h.step hf)

theorem says_pass (marker delimiter : Text) (fs : List Text) :
    Says marker delimiter fs (pass marker delimiter fs fs).1 (pass marker delimiter fs fs).2 :=
  have hstart : Keeps marker delimiter [] fs fs :=
    ⟨List.not_mem_nil, .inl ⟨List.not_mem_nil, rfl⟩⟩
  hstart.says_pass

theorem ofLine_eq_pass (line marker : Text) (kind : LineKind) (delimiter : Text) :
    ofLine line marker kind delimiter =
      let fs := commentFields line kind delimiter
      ⟨Text.spaced (pass marker delimiter fs fs).1, (pass marker delimiter fs fs).2⟩ :=
  (says_pass marker delimiter _).ofLine_eq

end Pass

section Line

variable (line marker : Text) (kind : LineKind) (delimiter : Text)

theorem fields_eq_commentFields_append :
    line.fields = commentFields line kind delimiter ++
      if kind = .blockEnd ∧ line.fields.getLast? = some delimiter then [delimiter] else [] := by
  unfold commentFields
  dsimp only
  split
  · rename_i h
    exact (List.dropLast_append_getLast? delimiter h.2).symm
  · exact (List.append_nil line.fields).symm

theorem says_ofLine :
    Says marker delimiter (commentFields line kind delimiter)
      (ofLine line marker kind delimiter).text.fields
      (ofLine line marker kind delimiter).found := by
  have hsaid := says_pass marker delimiter (commentFields line kind delimiter)
  rw [ofLine_eq_pass]
  dsimp only
  rw [hsaid.fields_spaced]
  exact hsaid

theorem spaced_fields_ofLine :
    Text.spaced (ofLine line marker kind delimiter).text.fields =
      (ofLine line marker kind delimiter).text := by
  have hsaid := says_pass marker delimiter (commentFields line kind delimiter)
  rw [ofLine_eq_pass]
  dsimp only
  rw [hsaid.fields_spaced]

end Line

/-- A line is read by its fields, without the delimiter that closes a block as the last of them. It
is marked just if the marker is one of them, so never for a marker that is empty or has a blank in
it, and then it says the fields behind the first marker. Otherwise it says the fields behind the
last delimiter, all of them if there is none. What it says is these fields with single spaces
between them, and it is split into these fields again. -/
theorem fields_ofLine (line marker : Text) (kind : LineKind) (delimiter : Text) :
    let fs := commentFields line kind delimiter
    let content := ofLine line marker kind delimiter
    let said := content.text.fields
    (line.fields = fs ++
        if kind = .blockEnd ∧ line.fields.getLast? = some delimiter then [delimiter] else []) ∧
      (content.found = true ↔ marker ∈ fs) ∧
      (marker = [] ∨ (∃ c ∈ marker, Text.isBlank c = true) → content.found = false) ∧
      (content.found = true → ∃ before, fs = before ++ marker :: said ∧ marker ∉ before) ∧
      (content.found = false →
        (delimiter ∈ fs → ∃ before, fs = before ++ delimiter :: said) ∧
          (delimiter ∉ fs → said = fs) ∧ marker ∉ said ∧ delimiter ∉ said) ∧
      Text.spaced said = content.text := by
  intro fs content said
  have hsaid : Says marker delimiter fs said content.found :=
    says_ofLine line marker kind delimiter
  refine ⟨fields_eq_commentFields_append line kind delimiter, hsaid.found_iff, ?_, ?_, ?_,
    spaced_fields_ofLine line marker kind delimiter⟩
  · intro hmarker
    rw [Bool.eq_false_iff]
    intro hfound
    obtain ⟨hne, hunbroken⟩ := Text.mem_fields (mem_commentFields (hsaid.found_iff.mp hfound))
    rcases hmarker with hempty | ⟨c, hc, hblank⟩
    · exact hne hempty
    · rw [hunbroken c hc] at hblank
      cases hblank
  · intro hfound
    rw [hfound] at hsaid
    exact hsaid.of_found
  · intro hfound
    rw [hfound] at hsaid
    exact hsaid.of_not_found

theorem fields_ofLine_repeated :
    let marker : Text := "@TODO".toList
    let close : Text := "*/".toList
    let marked : Text := "a\t@TODO  b */ @TODO c */".toList
    let plain : Text := " */ a */\u00a0b  c */".toList
    (∃ before, commentFields marked .blockEnd close =
        before ++ marker :: (ofLine marked marker .blockEnd close).text.fields ∧
          marker ∉ before) ∧
      (ofLine marked marker .blockEnd close).text = "b */ @TODO c".toList ∧
      (∃ before, commentFields plain .blockEnd close =
        before ++ close :: (ofLine plain marker .blockEnd close).text.fields) ∧
      (ofLine plain marker .blockEnd close).text = "b c".toList ∧
      (ofLine "a  b */".toList close .blockEnd close).text.fields =
        commentFields "a  b */".toList .blockEnd close ∧
      (ofLine plain "b c".toList .blockEnd close).found = false := by
  intro marker close marked plain
  obtain ⟨-, -, -, hmarked, -, -⟩ := fields_ofLine marked marker .blockEnd close
  obtain ⟨-, -, -, -, hplain, -⟩ := fields_ofLine plain marker .blockEnd close
  obtain ⟨-, -, -, -, halike, -⟩ := fields_ofLine "a  b */".toList close .blockEnd close
  obtain ⟨-, -, hblank, -, -, -⟩ := fields_ofLine plain "b c".toList .blockEnd close
  refine ⟨hmarked (by decide), by decide, (hplain (by decide)).1 (by decide), by decide,
    (halike (by decide)).2.1 (by decide), hblank (.inr ⟨' ', by decide, by decide⟩)⟩

end CommentTags.Content
