import CommentTags.Proofs.Comment.Run
import CommentTags.Proofs.Tag.Origin
import CommentTags.Proofs.Text.Fields
import Mathlib.Data.List.Find

namespace CommentTags

namespace CommentStyle

def Unbroken (style : CommentStyle) : Prop :=
  (∀ d ∈ style.single, d.Unbroken) ∧
    ∀ pair ∈ style.blocks, pair.1.Unbroken ∧ pair.2.Unbroken

instance (style : CommentStyle) : Decidable style.Unbroken :=
  inferInstanceAs (Decidable (_ ∧ _))

section Alike

variable {s t d e : Text}

theorem isPrefixOf_trim_congr (hst : s.fields = t.fields) (hd : d.Unbroken) :
    d.isPrefixOf s.trim = d.isPrefixOf t.trim := by
  rw [Bool.eq_iff_iff, List.isPrefixOf_iff_prefix, List.isPrefixOf_iff_prefix,
    Text.prefix_trim_iff hd, Text.prefix_trim_iff hd, hst]

theorem isSuffixOf_trim_congr (hst : s.fields = t.fields) (hd : d.Unbroken) :
    d.isSuffixOf s.trim = d.isSuffixOf t.trim := by
  rw [Bool.eq_iff_iff, List.isSuffixOf_iff_suffix, List.isSuffixOf_iff_suffix,
    Text.suffix_trim_iff hd, Text.suffix_trim_iff hd, hst]

theorem closesAtOnce_trim_congr (hst : s.fields = t.fields) (hd : d.Unbroken) (he : e.Unbroken)
    (hstart : d <+: s.trim) : closesAtOnce d e s.trim = closesAtOnce d e t.trim := by
  have hends : e <:+ s.trim ↔ e <:+ t.trim := by
    rw [Text.suffix_trim_iff he, Text.suffix_trim_iff he, hst]
  have hstart' : d <+: t.trim := by
    rwa [Text.prefix_trim_iff hd, ← hst, ← Text.prefix_trim_iff hd]
  rw [Bool.eq_iff_iff]
  simp only [closesAtOnce, Bool.and_eq_true, decide_eq_true_eq, List.isSuffixOf_iff_suffix]
  constructor
  · rintro ⟨hlength, hend⟩
    refine ⟨?_, hends.mp hend⟩
    rw [Text.length_add_length_le_iff hd he hstart hend, hst] at hlength
    exact (Text.length_add_length_le_iff hd he hstart' (hends.mp hend)).mpr hlength
  · rintro ⟨hlength, hend⟩
    refine ⟨?_, hends.mpr hend⟩
    rw [Text.length_add_length_le_iff hd he hstart' hend, ← hst] at hlength
    exact (Text.length_add_length_le_iff hd he hstart (hends.mpr hend)).mpr hlength

theorem blockState_congr (hst : s.fields = t.fields) {pairs : List (Text × Text)}
    (hpairs : ∀ pair ∈ pairs, pair.1.Unbroken ∧ pair.2.Unbroken) :
    blockState s.trim pairs = blockState t.trim pairs := by
  induction pairs with
  | nil => rfl
  | cons pair pairs ih =>
    obtain ⟨hstart, hclose⟩ := hpairs pair List.mem_cons_self
    have ih := ih (fun p hp => hpairs p (List.mem_cons_of_mem _ hp))
    rw [blockState, blockState, ← isPrefixOf_trim_congr hst hstart,
      ← isSuffixOf_trim_congr hst hclose, ih]
    split
    · rename_i hopens
      rw [closesAtOnce_trim_congr hst hstart hclose (List.isPrefixOf_iff_prefix.mp hopens)]
    · rfl

end Alike

section Lines

variable {style : CommentStyle} {l l' : Text}

theorem fresh_congr (hstyle : style.Unbroken) (h : l.fields = l'.fields) :
    style.fresh l.trim = style.fresh l'.trim := by
  have hfind : style.single.find? (·.isPrefixOf l.trim) =
      style.single.find? (·.isPrefixOf l'.trim) :=
    List.find?_congr (fun d hd => isPrefixOf_trim_congr h (hstyle.1 d hd))
  rw [fresh, fresh, hfind, blockState_congr h hstyle.2]

theorem classify_congr (hstyle : style.Unbroken) {s : CommentState} (hs : style.Allows s)
    (h : l.fields = l'.fields) : style.classify s l = style.classify s l' := by
  cases ho : s.openBlock with
  | some pair =>
    obtain ⟨start, close⟩ := pair
    have hclose := (hstyle.2 _ (hs.mem_blocks style ho).2).2
    rw [classify_open style s l start close ho, classify_open style s l' start close ho,
      isSuffixOf_trim_congr h hclose]
  | none =>
    have hcontinues : s.continues l.trim = s.continues l'.trim := by
      unfold CommentState.continues
      by_cases hk : s.kind = .single
      · have hd := hstyle.1 _ (hs.single hk).1
        rw [isPrefixOf_trim_congr h hd, isSuffixOf_trim_congr h hd]
      · rw [beq_false_of_ne hk, Bool.false_and, Bool.false_and]
    simp only [classify, ho, hcontinues, fresh_congr hstyle h]

theorem ofLine_congr (h : l.fields = l'.fields) (marker : Text) (kind : LineKind)
    (delimiter : Text) :
    Content.ofLine l marker kind delimiter = Content.ofLine l' marker kind delimiter := by
  simp only [Content.ofLine, Content.commentFields, h]

theorem feed_congr (hstyle : style.Unbroken) (marker : Text) {s : CommentState}
    (hs : style.Allows s) (h : l.fields = l'.fields) :
    style.feed marker s l = style.feed marker s l' := by
  simp only [feed, classify_congr hstyle hs h, ofLine_congr h]

theorem feedLines_congr (hstyle : style.Unbroken) (marker : Text) {s : CommentState}
    (hs : style.Allows s) {lines lines' : List Text}
    (h : lines.map Text.fields = lines'.map Text.fields) :
    style.feedLines marker s lines = style.feedLines marker s lines' := by
  induction lines generalizing s lines' with
  | nil =>
    obtain rfl := List.map_eq_nil_iff.mp h.symm
    rfl
  | cons line rest ih =>
    obtain ⟨line', rest', rfl, hline, hrest⟩ := List.map_eq_cons_iff.mp h.symm
    have hfields : line.dropLineEnd.fields = line'.dropLineEnd.fields := by
      rw [Text.fields_dropLineEnd, Text.fields_dropLineEnd, hline]
    have hnext : style.Allows (style.feed marker s line'.dropLineEnd).1 :=
      style.allows_classify hs line'.dropLineEnd
    rw [feedLines, feedLines, feed_congr hstyle marker hs hfields]
    exact congrArg _ (ih hnext hrest.symm)

end Lines

end CommentStyle

theorem yields_congr {search : Search} (hstyle : search.style.Unbroken) {lines lines' : List Text}
    (h : lines.map Text.fields = lines'.map Text.fields) :
    Assembly.yields search lines = Assembly.yields search lines' := by
  rw [Assembly.yields_eq, Assembly.yields_eq,
    CommentStyle.feedLines_congr hstyle search.marker search.style.allows_initial h]

theorem map_fields_map {f : Text → Text} (hf : ∀ line, (f line).fields = line.fields)
    (lines : List Text) : (lines.map f).map Text.fields = lines.map Text.fields := by
  rw [List.map_map]
  exact List.map_congr_left (fun line _ => hf line)

/-- The tags of a file are those of the same lines with single spaces between their fields. They
depend on the fields of the lines only, and so do the reports: neither blanks at the ends of lines
nor the kinds of blanks between fields matter. -/
theorem scanLines_layout (search : Search) (hstyle : search.style.Unbroken) (lines : List Text) :
    scanLines search lines = scanLines search (lines.map (fun line => Text.spaced line.fields)) ∧
      (∀ lines' : List Text, lines'.map Text.fields = lines.map Text.fields →
        scanLines search lines' = scanLines search lines ∧
          scanJournal search lines' = scanJournal search lines) ∧
      (∀ front back : Text → Text, (∀ line, ∀ c ∈ front line ++ back line, Text.isBlank c = true) →
        scanLines search (lines.map (fun line => front line ++ line ++ back line)) =
          scanLines search lines) ∧
      ∀ g : Char → Char, (∀ c, if Text.isBlank c then Text.isBlank (g c) = true else g c = c) →
        scanLines search (lines.map (fun line => line.map g)) = scanLines search lines := by
  have hsame : ∀ lines' : List Text, lines'.map Text.fields = lines.map Text.fields →
      scanLines search lines' = scanLines search lines := by
    intro lines' h
    rw [scanLines, scanLines, yields_congr hstyle h]
  refine ⟨?_, fun lines' h => ⟨hsame lines' h, ?_⟩, ?_, ?_⟩
  · exact (hsame _ (map_fields_map Text.fields_spaced_fields lines)).symm
  · rw [scanJournal, scanJournal, yields_congr hstyle h]
  · intro front back hblank
    refine hsame _ (map_fields_map (fun line => ?_) lines)
    rw [Text.fields_append_of_blank (fun c hc => hblank line c (List.mem_append_right _ hc)),
      Text.fields_blank_append (fun c hc => hblank line c (List.mem_append_left _ hc))]
  · exact fun g hg => hsame _ (map_fields_map (Text.fields_map hg) lines)

theorem scanLines_layout_tabbed :
    let tabbed : List Text :=
      ["\t/*  @TODO\trefactor \r\n", "\tthis\t function  */\r\n", "//\t@TODO \tsplit\n"].map
        String.toList
    let plain : List Text :=
      ["/* @TODO refactor", "this function */", "// @TODO split"].map String.toList
    notedSearch.style.Unbroken ∧ tabbed.map (fun line => Text.spaced line.fields) = plain ∧
      scanLines notedSearch tabbed = scanLines notedSearch plain ∧
      (scanLines notedSearch tabbed).map Tag.title = ["refactor".toList, "split".toList] := by
  intro tabbed plain
  have hstyle : notedSearch.style.Unbroken := by decide
  have hplain : tabbed.map (fun line => Text.spaced line.fields) = plain := by decide
  have hsame := (scanLines_layout notedSearch hstyle tabbed).1
  rw [hplain] at hsame
  refine ⟨hstyle, hplain, hsame, ?_⟩
  rw [hsame]
  decide

end CommentTags
