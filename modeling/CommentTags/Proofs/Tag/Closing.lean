import CommentTags.Proofs.Comment.Fields
import CommentTags.Proofs.Tag.Boundary

/-!
The ends of blocks in what their lines say. The closing delimiter is left out where it is a field of
its own at the end of the line. Where it clings to the field before it, or stands there twice, it
ends the line all the same and is read as a part of it.
-/

namespace CommentTags

/-- The last field of the line ends with the delimiter even where the delimiter itself is left out,
and it is read: it follows the marker, or there is no marker and the field is another one than the
delimiter. -/
def CommentState.Clings (s : CommentState) (marker line : Text) : Prop :=
  let fs := Content.commentFields line s.kind s.delimiter
  s.delimiter <:+ fs.getLastD [] ∧
    (marker ∈ fs.dropLast ∨ fs.getLastD [] ≠ marker ∧ fs.getLastD [] ≠ s.delimiter)

instance (s : CommentState) (marker line : Text) : Decidable (s.Clings marker line) :=
  inferInstanceAs (Decidable (_ ∧ _))

namespace Content

theorem text_ofLine (line marker : Text) (kind : LineKind) (delimiter : Text) :
    (ofLine line marker kind delimiter).text =
      let fs := commentFields line kind delimiter
      Text.spaced ((after? marker fs).getD (afterLast delimiter fs)) := by
  unfold ofLine
  dsimp only
  cases after? marker (commentFields line kind delimiter) <;> rfl

theorem after?_append_singleton (marker : Text) (front : List Text) (last : Text) :
    after? marker (front ++ [last]) =
      if marker ∈ front then (after? marker front).map (· ++ [last])
      else if last = marker then some [] else none := by
  induction front with
  | nil => rfl
  | cons f front ih =>
    by_cases hf : f = marker
    · simp [after?, hf]
    · have hf' : marker ≠ f := fun h => hf h.symm
      simp [after?, hf, hf', ih]

theorem afterLast_append_singleton (delimiter : Text) (front : List Text) (last : Text) :
    afterLast delimiter (front ++ [last]) =
      if last = delimiter then [] else afterLast delimiter front ++ [last] := by
  by_cases h : last = delimiter <;> simp [afterLast, h]

section Delimiter

variable {marker d : Text}

theorem suffix_spaced_iff (hne : d ≠ []) (hd : d.Unbroken) (fs : List Text) :
    d <:+ Text.spaced ((after? marker fs).getD (afterLast d fs)) ↔
      d <:+ fs.getLastD [] ∧
        (marker ∈ fs.dropLast ∨ fs.getLastD [] ≠ marker ∧ fs.getLastD [] ≠ d) := by
  rw [Text.spaced, Text.suffix_intercalate_iff hd rfl]
  rcases List.eq_nil_or_concat' fs with rfl | ⟨front, last, rfl⟩
  · simp [after?, afterLast, hne]
  rw [List.getLastD_concat, List.dropLast_concat, after?_append_singleton,
    afterLast_append_singleton]
  by_cases hfront : marker ∈ front
  · obtain ⟨rest, hrest⟩ :=
      Option.isSome_iff_exists.mp ((after?_isSome_iff marker front).mpr hfront)
    simp [hfront, hrest]
  by_cases hlast : last = marker
  · simp [hfront, hlast, hne]
  by_cases hdelim : last = d
  · subst hdelim
    simp [hfront, hlast, hne]
  · simp [hfront, hlast, hdelim]

theorem text_ofLine_of_broken (hd : ¬ d.Unbroken) (line : Text) (kind : LineKind) :
    (ofLine line marker kind d).text =
      Text.spaced ((after? marker line.fields).getD line.fields) := by
  have hmem : d ∉ line.fields := fun h => hd (Text.mem_fields h).2
  have hfields : commentFields line kind d = line.fields := by
    rw [commentFields, if_neg]
    exact fun h => hmem (List.mem_of_getLast? h.2)
  rw [text_ofLine, hfields]
  exact congrArg (fun fs => Text.spaced ((after? marker line.fields).getD fs))
    (afterLast_of_not_mem hmem)

end Delimiter

end Content

theorem CommentState.clings_dropLineEnd {s : CommentState} {marker line : Text} :
    s.Clings marker line.dropLineEnd ↔ s.Clings marker line := by
  simp only [Clings, Content.commentFields, Text.fields_dropLineEnd]

namespace CommentStyle

variable (style : CommentStyle)

theorem suffix_of_kind_blockState {trimmed : Text} {pairs : List (Text × Text)}
    (h : (blockState trimmed pairs).kind = .blockEnd) :
    (blockState trimmed pairs).delimiter <:+ trimmed := by
  induction pairs with
  | nil => cases h
  | cons pair pairs ih =>
    obtain ⟨start, close⟩ := pair
    unfold blockState at h ⊢
    split at h
    · cases h
    · rename_i hstart
      rw [if_neg hstart]
      split at h
      · rename_i hclose
        rw [if_pos hclose]
        exact List.isSuffixOf_iff_suffix.mp hclose
      · rename_i hclose
        rw [if_neg hclose]
        exact ih h

theorem suffix_of_kind_classify {s : CommentState} (hs : style.Allows s) {line : Text}
    (h : (style.classify s line).kind = .blockEnd) :
    (style.classify s line).delimiter <:+ line.trim := by
  cases ho : s.openBlock with
  | some pair =>
    obtain ⟨start, close⟩ := pair
    by_cases hend : close <:+ line.trim
    · rw [style.classify_of_suffix ho hend]
      exact hend
    · rw [style.classify_of_not_suffix ho hend, (hs.mem_blocks style ho).1] at h
      cases h
  | none =>
    simp only [classify, ho] at h ⊢
    split at h
    · rename_i hcontinues
      have hkind : s.kind = .single := by
        simpa using (Bool.and_eq_true_iff.mp hcontinues).1
      rw [hkind] at h
      cases h
    · rename_i hcontinues
      rw [if_neg hcontinues]
      unfold fresh at h ⊢
      split at h
      · cases h
      · exact suffix_of_kind_blockState h

variable {style} {marker : Text}

theorem text_feed {s : CommentState} {line : Text}
    (h : (style.feed marker s line).1.kind = .blockEnd) :
    (style.feed marker s line).2.text =
      (Content.ofLine line marker .blockEnd (style.feed marker s line).1.delimiter).text := by
  have hkind : (style.classify s line).kind = .blockEnd := h
  simp only [feed, hkind, LineKind.isComment, if_true]

theorem suffix_feed_iff (hne : ∀ pair ∈ style.blocks, pair.2 ≠ []) {s : CommentState}
    (hs : style.Allows s) {line : Text} (h : (style.feed marker s line).1.kind = .blockEnd)
    (hd : (style.feed marker s line).1.delimiter.Unbroken) :
    (style.feed marker s line).1.delimiter <:+ (style.feed marker s line).2.text ↔
      (style.feed marker s line).1.Clings marker line := by
  obtain ⟨start, hmem⟩ := ((style.allows_classify hs line).blockEnd h).1
  rw [text_feed h, Content.text_ofLine, CommentState.Clings, h]
  exact Content.suffix_spaced_iff (hne _ hmem) hd _

theorem getElem?_feedLines (s : CommentState) (lines : List Text) (i : ℕ) :
    (style.feedLines marker s lines)[i]? = lines[i]?.map (fun line =>
      style.feed marker ((lines.take i).foldl style.classify s) line.dropLineEnd) := by
  induction lines generalizing s i with
  | nil => rfl
  | cons line rest ih =>
    cases i with
    | zero => rfl
    | succ i =>
      have hnext : (style.feed marker s line.dropLineEnd).1 = style.classify s line :=
        style.classify_dropLineEnd s line
      simp only [feedLines, List.getElem?_cons_succ, ih, hnext, List.take_succ_cons,
        List.foldl_cons]

theorem suffix_remark_iff (hne : ∀ pair ∈ style.blocks, pair.2 ≠ []) {lines : List Text} {i : ℕ}
    {r : Remark} (h : (style.feedLines marker .initial lines)[i]? = some r)
    (hkind : r.1.kind = .blockEnd) (hd : r.1.delimiter.Unbroken) :
    ∃ line, lines[i]? = some line ∧
      (r.1.delimiter <:+ r.2.text ↔ r.1.Clings marker line) := by
  rw [getElem?_feedLines] at h
  obtain ⟨line, hline, rfl⟩ := Option.map_eq_some_iff.mp h
  have hallowed := style.allows_after (lines.take i)
  exact ⟨line, hline,
    (suffix_feed_iff hne hallowed hkind hd).trans CommentState.clings_dropLineEnd⟩

end CommentStyle

theorem getLast?_throughBlockEnd {rs : List Remark} {x : Remark} (h : x ∈ throughBlockEnd rs)
    (hx : x.1.kind = .blockEnd) : (throughBlockEnd rs).getLast? = some x := by
  induction rs with
  | nil => cases h
  | cons r rest ih =>
    unfold throughBlockEnd at h ⊢
    split at h
    · rename_i hr
      rw [if_pos hr, List.mem_singleton.mp h]
      rfl
    · rename_i hr
      rw [if_neg hr, List.getLast?_cons]
      rcases List.mem_cons.mp h with rfl | h
      · exact absurd hx hr
      · rw [ih h]
        rfl

theorem getLast?_extent {s : CommentState} {behind : List Remark} {x : Remark}
    (h : x ∈ extent s behind) (hx : x.1.kind = .blockEnd) :
    (extent s behind).getLast? = some x := by
  by_cases hk : s.kind = .single
  · rw [kind_of_mem_extent_of_single hk h] at hx
    cases hx
  · unfold extent at h ⊢
    rw [if_neg hk] at h ⊢
    split at h
    · rename_i hb
      rw [if_pos hb]
      exact getLast?_throughBlockEnd h hx
    · cases h

theorem suffix_textOfRemarks_iff {d : Text} (hd : d.Unbroken) {rs : List Remark} {x : Remark}
    (hlast : rs.getLast? = some x) (hx : x.2.text ≠ []) :
    d <:+ textOfRemarks rs ↔ d <:+ x.2.text := by
  obtain ⟨earlier, rfl⟩ := List.getLast?_eq_some_iff.mp hlast
  have hsaid : (!x.2.text.isEmpty) = true := by simpa using hx
  rw [textOfRemarks, Text.suffix_intercalate_iff hd rfl, List.map_append, List.map_singleton,
    List.filter_append, List.filter_singleton, hsaid, cond_true, List.getLastD_concat]

/-- What is read off the line that ends a block ends with the closing delimiter just if the
delimiter clings to the last field that is read, and so do the titles and the descriptions of tags
that are taken from such a line. -/
theorem delimiter_suffix_iff (style : CommentStyle) (hne : ∀ pair ∈ style.blocks, pair.2 ≠ [])
    (marker : Text) :
    (∀ lines line,
      let r := style.feed marker (style.after lines) line
      r.1.kind = .blockEnd →
        (∃ start, (start, r.1.delimiter) ∈ style.blocks) ∧ r.1.delimiter <:+ line.trim ∧
          (r.1.delimiter.Unbroken →
            (r.1.delimiter <:+ r.2.text ↔ r.1.Clings marker line)) ∧
          (¬ r.1.delimiter.Unbroken → r.2.text =
            Text.spaced ((Content.after? marker line.fields).getD line.fields))) ∧
      ∀ sourceFile lines,
        let remarks := style.feedLines marker .initial lines
        ∀ t ∈ scanLines ⟨style, marker, sourceFile⟩ lines, ∃ (i : ℕ) (r : Remark),
          remarks[i]? = some r ∧ t.lineNumber = i + 1 ∧
          (r.1.kind = .blockEnd → r.1.delimiter.Unbroken → ∃ line, lines[i]? = some line ∧
            (r.1.delimiter <:+ t.title ↔ r.1.Clings marker line)) ∧
          ∀ x ∈ extent r.1 (remarks.drop (i + 1)), x.1.kind = .blockEnd →
            x.1.delimiter.Unbroken → x.2.text ≠ [] →
            ∃ (j : ℕ) (line : Text), lines[j]? = some line ∧ remarks[j]? = some x ∧
              (x.1.delimiter <:+ t.description ↔ x.1.Clings marker line) := by
  constructor
  · intro lines line r hkind
    have hallowed := style.allows_after lines
    refine ⟨((style.allows_classify hallowed line).blockEnd hkind).1,
      style.suffix_of_kind_classify hallowed hkind,
      CommentStyle.suffix_feed_iff hne hallowed hkind, ?_⟩
    intro hd
    rw [CommentStyle.text_feed hkind, Content.text_ofLine_of_broken hd]
  · intro sourceFile lines remarks t ht
    rw [scanLines_eq] at ht
    obtain ⟨i, r, hi, -, -, rfl⟩ := Tag.mem_ofRemarks ht
    refine ⟨i, r, hi, ?_, CommentStyle.suffix_remark_iff hne hi, ?_⟩
    · simp only [Tag.ofRemark]
      omega
    · intro x hx hkind hd hsaid
      obtain ⟨j, hj⟩ := List.mem_iff_getElem?.mp (extent_subset _ _ hx)
      rw [List.getElem?_drop] at hj
      obtain ⟨line, hline, hiff⟩ := CommentStyle.suffix_remark_iff hne hj hkind hd
      refine ⟨i + 1 + j, line, hline, hj, ?_⟩
      rw [← hiff]
      exact suffix_textOfRemarks_iff hd (getLast?_extent hx hkind) hsaid

theorem delimiter_suffix_iff_cFamily :
    let lines : List Text := ["/* refactor", "@TODO this function*/"].map String.toList
    let closing : Text := "  @TODO later */".toList
    let r := CommentStyle.cFamily.feed "@TODO".toList
      (CommentStyle.cFamily.after (lines.take 1)) closing
    let t : Tag := ⟨"@TODO".toList, "this function*/".toList, [], "a.c".toList, 2⟩
    (∀ pair ∈ CommentStyle.cFamily.blocks, pair.2 ≠ []) ∧
      r.1.kind = .blockEnd ∧ r.1.delimiter.Unbroken ∧
      ¬ r.1.Clings "@TODO".toList closing ∧ ¬ r.1.delimiter <:+ r.2.text ∧
      t ∈ scanLines ⟨.cFamily, "@TODO".toList, "a.c".toList⟩ lines ∧ "*/".toList <:+ t.title := by
  intro lines closing r t
  have hne : ∀ pair ∈ CommentStyle.cFamily.blocks, pair.2 ≠ [] := by decide
  have hkind : r.1.kind = .blockEnd := by decide
  have hd : r.1.delimiter.Unbroken := by decide
  have halone : ¬ r.1.Clings "@TODO".toList closing := by decide
  have ht : t ∈ scanLines ⟨.cFamily, "@TODO".toList, "a.c".toList⟩ lines := by decide
  obtain ⟨hfeed, htags⟩ := delimiter_suffix_iff .cFamily hne "@TODO".toList
  obtain ⟨-, -, hends, -⟩ := hfeed (lines.take 1) closing hkind
  refine ⟨hne, hkind, hd, halone, fun h => halone ((hends hd).mp h), ht, ?_⟩
  obtain ⟨i, r', hi, hnumber, htitle, -⟩ := htags "a.c".toList lines t ht
  have hfirst : i = 1 := by
    have hnumber : (2 : ℤ) = i + 1 := hnumber
    omega
  subst hfirst
  cases hi
  obtain ⟨line, hline, hends⟩ := htitle (by decide) (by decide)
  cases hline
  exact hends.mpr (by decide)

theorem clinging_delimiter_read :
    let lines : List Text := ["/* @TODO refactor", "   this function later*/"].map String.toList
    let r := CommentStyle.cFamily.feed "@TODO".toList
      (CommentStyle.cFamily.after (lines.take 1)) "   this function later*/".toList
    r.1 = ⟨"*/".toList, .blockEnd, none⟩ ∧
      r.2 = ⟨"this function later*/".toList, false⟩ ∧ r.1.delimiter <:+ r.2.text ∧
      (scanLines ⟨.cFamily, "@TODO".toList, "a.c".toList⟩ lines).map Tag.description =
        ["this function later*/".toList] := by
  decide

end CommentTags
