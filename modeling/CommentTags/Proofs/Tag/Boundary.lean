import CommentTags.Proofs.Comment.Run
import CommentTags.Proofs.Tag.Origin

namespace CommentTags

/-- Nothing that starts before the next line goes on in it. -/
structure CommentState.Settled (s : CommentState) : Prop where
  closed : s.openBlock = none
  not_single : s.kind ≠ .single

theorem CommentState.settled_initial : initial.Settled := ⟨rfl, by decide⟩

namespace CommentStyle

variable (style : CommentStyle) (marker : Text)

theorem classify_dropLineEnd (s : CommentState) (line : Text) :
    style.classify s line.dropLineEnd = style.classify s line := by
  simp only [classify, Text.trim_dropLineEnd]

theorem classify_of_settled {s : CommentState} (hs : s.Settled) (line : Text) :
    style.classify s line = style.fresh line.trim := by
  simp [classify, hs.closed, CommentState.continues, hs.not_single]

theorem feedLines_of_settled {s : CommentState} (hs : s.Settled) (lines : List Text) :
    style.feedLines marker s lines = style.feedLines marker .initial lines := by
  cases lines with
  | nil => rfl
  | cons line rest =>
    have hfeed : style.feed marker s line.dropLineEnd =
        style.feed marker .initial line.dropLineEnd := by
      simp only [feed, style.classify_of_settled hs,
        style.classify_of_settled CommentState.settled_initial]
    simp only [feedLines, hfeed]

theorem feedLines_append (s : CommentState) (xs ys : List Text) :
    style.feedLines marker s (xs ++ ys) =
      style.feedLines marker s xs ++
        style.feedLines marker (xs.foldl style.classify s) ys := by
  induction xs generalizing s with
  | nil => rfl
  | cons x xs ih =>
    simp only [List.cons_append, feedLines, List.foldl_cons, ih, feed, classify_dropLineEnd]

theorem extent_append {s : CommentState} (hs : s.Coherent) {lines : List Text}
    (hend : (lines.foldl style.classify s).Settled) (more : List Remark) :
    extent s (style.feedLines marker s lines ++ more) =
      extent s (style.feedLines marker s lines) := by
  induction lines generalizing s with
  | nil =>
    have hend : s.Settled := hend
    have hclosed : s.inBlock = false := by simpa [CommentState.inBlock] using hend.closed
    rw [extent_of_closed hend.not_single hclosed, extent_of_closed hend.not_single hclosed]
  | cons line rest ih =>
    let r := style.feed marker s line.dropLineEnd
    have hnext : r.1 = style.classify s line := style.classify_dropLineEnd s line
    have hrest := ih (s := r.1) (hnext ▸ style.coherent_classify s line hs)
      (by rw [hnext]; exact hend)
    change extent s (r :: (style.feedLines marker r.1 rest ++ more)) =
      extent s (r :: style.feedLines marker r.1 rest)
    by_cases hfound : r.2.found = true
    · rw [extent_cons_of_found s hfound, extent_cons_of_found s hfound]
    have hf : r.2.found = false := Bool.eq_false_iff.mpr hfound
    by_cases hk : s.kind = .single
    · by_cases hr : r.1.kind = .single
      · rw [extent_cons_of_single hk hr hf, extent_cons_of_single hk hr hf, hrest]
      · rw [extent_cons_of_not_single hk hr, extent_cons_of_not_single hk hr]
    by_cases hb : s.inBlock = true
    · obtain ⟨⟨start, close⟩, ho⟩ := Option.isSome_iff_exists.mp hb
      have hstep : r.1 = s ∨ r.1 = ⟨close, .blockEnd, none⟩ :=
        style.classify_of_open s line.dropLineEnd start close ho
      rw [extent_cons_of_inBlock hs hb hstep hf, extent_cons_of_inBlock hs hb hstep hf, hrest]
    · have hclosed : s.inBlock = false := Bool.eq_false_iff.mpr hb
      rw [extent_of_closed hk hclosed, extent_of_closed hk hclosed]

end CommentStyle

namespace Tag

def moved (n : ℕ) (t : Tag) : Tag := { t with lineNumber := t.lineNumber + n }

theorem ofRemarks_add (search : Search) (number n : ℕ) (rs : List Remark) :
    ofRemarks search (number + n) rs = (ofRemarks search number rs).map (moved n) := by
  induction rs generalizing number with
  | nil => rfl
  | cons r rest ih =>
    have hrest := ih (number + 1)
    rw [Nat.add_right_comm] at hrest
    unfold ofRemarks
    split
    · rw [List.map_cons, hrest]
      simp [moved, ofRemark]
    · exact hrest

theorem ofRemarks_append (search : Search) (number : ℕ) {s : CommentState} (hs : s.Coherent)
    {lines : List Text} (hend : (lines.foldl search.style.classify s).Settled)
    (more : List Remark) :
    ofRemarks search number (search.style.feedLines search.marker s lines ++ more) =
      ofRemarks search number (search.style.feedLines search.marker s lines) ++
        ofRemarks search (number + lines.length) more := by
  induction lines generalizing s number with
  | nil => rfl
  | cons line rest ih =>
    let r := search.style.feed search.marker s line.dropLineEnd
    have hnext : r.1 = search.style.classify s line :=
      search.style.classify_dropLineEnd s line
    have hcoherent : r.1.Coherent := hnext ▸ search.style.coherent_classify s line hs
    have hsettled : (rest.foldl search.style.classify r.1).Settled := by
      rw [hnext]
      exact hend
    have hrest := ih (number + 1) hcoherent hsettled
    rw [Nat.add_right_comm, Nat.add_assoc] at hrest
    have hhead : ofRemark search number r
          (search.style.feedLines search.marker r.1 rest ++ more) =
        ofRemark search number r (search.style.feedLines search.marker r.1 rest) := by
      rw [ofRemark, search.style.extent_append search.marker hcoherent hsettled]
      rfl
    change ofRemarks search number
        (r :: (search.style.feedLines search.marker r.1 rest ++ more)) =
      ofRemarks search number (r :: search.style.feedLines search.marker r.1 rest) ++ _
    rw [ofRemarks, ofRemarks, hhead, hrest]
    split <;> rfl

end Tag

/-- Where no block is open and no run of single lines goes on, a file can be cut in two: its tags
are those of the first part and, with their lines counted on, those of the second. -/
theorem scanLines_append (search : Search) (xs ys : List Text)
    (hclosed : (search.style.after xs).openBlock = none)
    (hsingle : (search.style.after xs).kind ≠ .single) :
    scanLines search (xs ++ ys) =
      scanLines search xs ++
        (scanLines search ys).map
          (fun t => { t with lineNumber := t.lineNumber + xs.length }) := by
  have hend : (search.style.after xs).Settled := ⟨hclosed, hsingle⟩
  have hback := search.style.feedLines_of_settled search.marker hend ys
  simp only [scanLines_eq]
  rw [search.style.feedLines_append,
    Tag.ofRemarks_append search 1 CommentState.coherent_initial hend, Tag.ofRemarks_add]
  exact congrArg (fun remarks => _ ++ (Tag.ofRemarks search 1 remarks).map (Tag.moved xs.length))
    hback

theorem scanLines_append_docstrings :
    let front := ["'''".toList, "@TODO name".toList, "'''".toList]
    let search : Search := ⟨.hashAndQuotes, "@TODO".toList, "a.py".toList⟩
    let back := ["''' @TODO split".toList, "in two".toList, "'''".toList]
    (search.style.after front).openBlock = none ∧ (search.style.after front).kind ≠ .single ∧
      scanLines search (front ++ back) =
        [⟨"@TODO".toList, "name".toList, [], "a.py".toList, 2⟩,
          ⟨"@TODO".toList, "split".toList, "in two".toList, "a.py".toList, 4⟩] := by
  intro front search back
  have hclosed : (search.style.after front).openBlock = none := by decide
  have hsingle : (search.style.after front).kind ≠ .single := by decide
  refine ⟨hclosed, hsingle, ?_⟩
  rw [scanLines_append search front back hclosed hsingle]
  decide

end CommentTags
