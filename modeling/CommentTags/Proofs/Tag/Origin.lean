import CommentTags.Proofs.Tag.Extent

namespace CommentTags

def textOfRemarks (rs : List Remark) : Text :=
  ['\n'].intercalate ((rs.map (fun r => r.2.text)).filter (fun text => !text.isEmpty))

namespace Tag

def ofRemark (search : Search) (number : ℕ) (r : Remark) (behind : List Remark) : Tag where
  marker := search.marker
  title := r.2.text
  description := textOfRemarks (extent r.1 behind)
  sourceFile := search.sourceFile
  lineNumber := number

def ofRemarks (search : Search) : ℕ → List Remark → List Tag
  | _, [] => []
  | number, r :: rest =>
    if r.2.found ∧ r.2.text ≠ [] then
      ofRemark search number r rest :: ofRemarks search (number + 1) rest
    else ofRemarks search (number + 1) rest

end Tag

namespace Draft

theorem describeAll_of_trimmed (d : Draft) (rs : List Remark)
    (h : ∀ r ∈ rs, r.2.text.trim = r.2.text) :
    d.describeAll rs = { d with
      description := d.description ++
        (rs.map (fun r => r.2.text)).filter (fun text => !text.isEmpty) } := by
  induction rs generalizing d with
  | nil => simp [describeAll]
  | cons r rest ih =>
    have hr := h r List.mem_cons_self
    have hrest := ih (d.describe r.2.text) (fun x hx => h x (List.mem_cons_of_mem _ hx))
    simp only [describeAll, List.foldl_cons] at hrest ⊢
    rw [hrest]
    cases he : r.2.text.isEmpty <;> simp [describe, hr, he]

theorem finish_ofRemark (search : Search) (number : ℕ) {r : Remark} {behind : List Remark}
    (h : ∀ x ∈ r :: behind, x.2.text.trim = x.2.text) :
    (ofRemark search number r behind).finish = Tag.ofRemark search number r behind := by
  have hr := h r List.mem_cons_self
  have hextent : ∀ x ∈ extent r.1 behind, x.2.text.trim = x.2.text := fun x hx =>
    h x (List.mem_cons_of_mem _ (extent_subset r.1 behind hx))
  have hlines : ∀ l ∈ ((extent r.1 behind).map (fun x => x.2.text)).filter
      (fun text => !text.isEmpty), l ≠ [] ∧ Text.trim l = l := by
    intro l hl
    obtain ⟨hl, hne⟩ := List.mem_filter.mp hl
    obtain ⟨x, hx, rfl⟩ := List.mem_map.mp hl
    exact ⟨by simpa using hne, hextent x hx⟩
  rw [ofRemark, describeAll_of_trimmed _ _ hextent]
  simp only [finish, Tag.ofRemark, textOfRemarks, List.nil_append, hr]
  rw [Text.trim_intercalate _ _ hlines]

theorem tag?_ofRemark (search : Search) (number : ℕ) {r : Remark} {behind : List Remark}
    (h : ∀ x ∈ r :: behind, x.2.text.trim = x.2.text) :
    (Yield.ofDraft (ofRemark search number r behind)).tag? =
      if r.2.text ≠ [] then some (Tag.ofRemark search number r behind) else none := by
  have hr := h r List.mem_cons_self
  have hvalid : (Tag.ofRemark search number r behind).isValid = !r.2.text.isEmpty := by
    rw [Tag.isValid, Tag.ofRemark, hr]
  rw [Yield.ofDraft, finish_ofRemark search number h, hvalid]
  cases he : r.2.text with
  | nil => simp [Yield.tag?]
  | cons c cs => simp [Yield.tag?]

theorem filterMap_tag?_ofRemarks (search : Search) (number : ℕ) {rs : List Remark}
    (h : ∀ r ∈ rs, r.2.text.trim = r.2.text) :
    ((ofRemarks search number rs).map Yield.ofDraft).filterMap Yield.tag? =
      Tag.ofRemarks search number rs := by
  induction rs generalizing number with
  | nil => rfl
  | cons r rest ih =>
    have hrest := ih (number + 1) (fun x hx => h x (List.mem_cons_of_mem _ hx))
    unfold ofRemarks Tag.ofRemarks
    by_cases hf : r.2.found = true
    · rw [if_pos hf, List.map_cons, List.filterMap_cons, tag?_ofRemark search number h, hrest]
      by_cases ht : r.2.text = [] <;> simp [hf, ht]
    · simp [hf, hrest]

end Draft

theorem trim_of_mem_feedLines {style : CommentStyle} {marker : Text} {s : CommentState}
    {lines : List Text} {r : Remark} (h : r ∈ style.feedLines marker s lines) :
    r.2.text.trim = r.2.text := by
  obtain ⟨s', line, rfl⟩ := style.exists_feed_of_mem marker h
  exact style.trim_feed marker s' line

theorem scanLines_eq (search : Search) (lines : List Text) :
    scanLines search lines =
      Tag.ofRemarks search 1 (search.style.feedLines search.marker .initial lines) := by
  rw [scanLines, Assembly.yields_eq]
  exact Draft.filterMap_tag?_ofRemarks search 1 (fun r hr => trim_of_mem_feedLines hr)

namespace Tag

theorem mem_ofRemarks {search : Search} {number : ℕ} {rs : List Remark} {t : Tag}
    (h : t ∈ ofRemarks search number rs) :
    ∃ i r, rs[i]? = some r ∧ r.2.found = true ∧ r.2.text ≠ [] ∧
      t = ofRemark search (number + i) r (rs.drop (i + 1)) := by
  induction rs generalizing number with
  | nil => cases h
  | cons r rest ih =>
    have hlater : t ∈ ofRemarks search (number + 1) rest → ∃ i r', (r :: rest)[i]? = some r' ∧
        r'.2.found = true ∧ r'.2.text ≠ [] ∧
        t = ofRemark search (number + i) r' ((r :: rest).drop (i + 1)) := by
      intro h
      obtain ⟨i, r', hi, hf, ht, he⟩ := ih h
      refine ⟨i + 1, r', hi, hf, ht, ?_⟩
      rw [he, show number + 1 + i = number + (i + 1) by omega]
      rfl
    unfold ofRemarks at h
    split at h
    · rename_i hr
      rcases List.mem_cons.mp h with rfl | h
      · exact ⟨0, r, rfl, hr.1, hr.2, rfl⟩
      · exact hlater h
    · exact hlater h

theorem map_ofRemarks (search : Search) (number : ℕ) (rs : List Remark) :
    (ofRemarks search number rs).map (fun t => (t.lineNumber, t.title)) =
      (rs.zipIdx number).filterMap (fun (r, i) =>
        if r.2.found ∧ r.2.text ≠ [] then some ((i : ℤ), r.2.text) else none) := by
  induction rs generalizing number with
  | nil => rfl
  | cons r rest ih =>
    unfold ofRemarks
    rw [List.zipIdx_cons, List.filterMap_cons, ← ih (number + 1)]
    by_cases h : r.2.found ∧ r.2.text ≠ []
    · simp only [if_pos h, List.map_cons]
      rfl
    · simp only [if_neg h]

theorem pairwise_ofRemarks (search : Search) (number : ℕ) (rs : List Remark) :
    ((ofRemarks search number rs).map lineNumber).Pairwise (· < ·) := by
  induction rs generalizing number with
  | nil => exact List.Pairwise.nil
  | cons r rest ih =>
    unfold ofRemarks
    split
    · rw [List.map_cons, List.pairwise_cons]
      refine ⟨?_, ih (number + 1)⟩
      intro n hn
      obtain ⟨t, ht, rfl⟩ := List.mem_map.mp hn
      obtain ⟨i, r', -, -, -, rfl⟩ := mem_ofRemarks ht
      simp only [ofRemark]
      omega
    · exact ih (number + 1)

end Tag

theorem sourceFile_of_mem_scanLines {search : Search} {lines : List Text} {t : Tag}
    (h : t ∈ scanLines search lines) : t.sourceFile = search.sourceFile := by
  rw [scanLines_eq] at h
  obtain ⟨i, r, -, -, -, rfl⟩ := Tag.mem_ofRemarks h
  rfl

def notedLines : List Text :=
  ["/* @TODO refactor\n", "   this function\n", "\n", "   later */\n", "// @TODO split\r\n",
    "// in two\n", "// @TODO\n", "// lost\n", "int x;\n"].map String.toList

def notedSearch : Search := ⟨.cFamily, "@TODO".toList, "a.c".toList⟩

def notedBlock : Tag :=
  ⟨"@TODO".toList, "refactor".toList, "this function\nlater".toList, "a.c".toList, 1⟩

theorem notedBlock_mem : notedBlock ∈ scanLines notedSearch notedLines := by decide

/-- The tags of a file stand for its marked lines with a title, one for each and in their order. -/
theorem scanLines_titles (search : Search) (lines : List Text) :
    let remarks := search.style.feedLines search.marker .initial lines
    (∀ n, remarks.take n = search.style.feedLines search.marker .initial (lines.take n)) ∧
      (scanLines search lines).map (fun t => (t.lineNumber, t.title)) =
        (remarks.zipIdx 1).filterMap (fun (r, i) =>
          if r.2.found ∧ r.2.text ≠ [] then some ((i : ℤ), r.2.text) else none) ∧
      ((scanLines search lines).map Tag.lineNumber).Pairwise (· < ·) ∧
      ∀ t ∈ scanLines search lines,
        t.marker = search.marker ∧ t.sourceFile = search.sourceFile ∧
          t.title ≠ [] ∧ t.title.trim = t.title ∧
          ∃ (i : ℕ) (r : Remark),
            remarks[i]? = some r ∧ t.lineNumber = i + 1 ∧ r.1.kind ≠ .code := by
  intro remarks
  rw [scanLines_eq]
  refine ⟨search.style.take_feedLines search.marker .initial lines,
    Tag.map_ofRemarks search 1 remarks, Tag.pairwise_ofRemarks search 1 remarks, ?_⟩
  intro t ht
  obtain ⟨i, r, hi, hf, htitle, rfl⟩ := Tag.mem_ofRemarks ht
  have hr : r ∈ remarks := List.mem_of_getElem? hi
  refine ⟨rfl, rfl, htitle, trim_of_mem_feedLines hr, i, r, hi, ?_, ?_⟩
  · simp only [Tag.ofRemark]
    omega
  · obtain ⟨s, line, rfl⟩ := search.style.exists_feed_of_mem search.marker hr
    have hc := search.style.isComment_of_found search.marker hf
    intro hk
    rw [hk] at hc
    cases hc

theorem scanLines_titles_notedBlock :
    notedBlock ∈ scanLines notedSearch notedLines ∧ notedBlock.title ≠ [] ∧
      notedBlock.title.trim = notedBlock.title := by
  obtain ⟨-, -, -, h⟩ := scanLines_titles notedSearch notedLines
  obtain ⟨-, -, hne, htrim, -⟩ := h notedBlock notedBlock_mem
  exact ⟨notedBlock_mem, hne, htrim⟩

/-- A tag is described by the lines of its extent and by no others. -/
theorem scanLines_descriptions (search : Search) (lines : List Text) :
    let remarks := search.style.feedLines search.marker .initial lines
    ∀ t ∈ scanLines search lines, ∃ (i : ℕ) (r : Remark),
      remarks[i]? = some r ∧ t.lineNumber = i + 1 ∧ r.2.found = true ∧
      let behind := remarks.drop (i + 1)
      t.description = textOfRemarks (extent r.1 behind) ∧
        (r.1.kind = .single → extent r.1 behind =
          behind.takeWhile (fun x => x.1.kind == .single && !x.2.found)) ∧
        (r.1.inBlock = true → extent r.1 behind =
          throughBlockEnd (behind.takeWhile (fun x => !x.2.found))) ∧
        (r.1.kind = .blockEnd ∨ r.1.kind = .blockStart ∧ r.1.inBlock = false →
          extent r.1 behind = []) ∧
        ∀ x ∈ extent r.1 behind, r.1.SameComment x.1 := by
  intro remarks t ht
  rw [scanLines_eq] at ht
  obtain ⟨i, r, hi, hf, -, rfl⟩ := Tag.mem_ofRemarks ht
  have hs : r.1.Coherent := search.style.coherent_of_mem_feedLines search.marker
    CommentState.coherent_initial (List.mem_of_getElem? hi)
  refine ⟨i, r, hi, ?_, hf, rfl, ?_, ?_, ?_, ?_⟩
  · simp only [Tag.ofRemark]
    omega
  · intro hk
    rw [extent, if_pos hk]
  · intro hb
    rw [extent, if_neg (hs.kind_ne_single hb), if_pos hb]
  · intro hclosed
    apply extent_of_closesBlock hs
    rcases hclosed with hk | ⟨hk, hb⟩
    · simp [CommentState.closesBlock, hk]
    · simp [CommentState.closesBlock, hk, hb]
  · intro x hx
    rw [search.style.drop_feedLines search.marker hi] at hx
    exact sameComment_of_mem_extent search.style search.marker hs hx

theorem scanLines_descriptions_notedBlock :
    let remarks := notedSearch.style.feedLines notedSearch.marker .initial notedLines
    notedBlock ∈ scanLines notedSearch notedLines ∧ ∃ (i : ℕ) (r : Remark),
      remarks[i]? = some r ∧ notedBlock.lineNumber = i + 1 ∧
        notedBlock.description = textOfRemarks (extent r.1 (remarks.drop (i + 1))) := by
  obtain ⟨i, r, hi, hn, -, hd, -⟩ :=
    scanLines_descriptions notedSearch notedLines notedBlock notedBlock_mem
  exact ⟨notedBlock_mem, i, r, hi, hn, hd⟩

end CommentTags
