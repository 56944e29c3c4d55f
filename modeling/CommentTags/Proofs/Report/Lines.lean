import CommentTags.File.Local
import CommentTags.Proofs.Json.Lines
import CommentTags.Proofs.Report.Text
import CommentTags.Proofs.Tag.Boundary

namespace CommentTags

namespace Json.Inert

variable {t : Text}

theorem not_starts (ht : Inert t) {d : Text}
    (hd : d.head?.any (fun c => !isEdge c) = true ∨ d = tripleQuote) : ¬ d <+: t := by
  rcases hd with hd | rfl
  · obtain ⟨c, hc, hedge⟩ := (Option.any_eq_true _ _).mp hd
    obtain ⟨s, rfl⟩ := List.head?_eq_some_iff.mp hc
    rintro ⟨u, rfl⟩
    rw [ht.head c rfl] at hedge
    cases hedge
  · exact ht.not_prefix

theorem not_ends (ht : Inert t) {d : Text}
    (hd : d.getLast?.any (fun c => !isEdge c) = true ∨ d = tripleQuote) : ¬ d <:+ t := by
  rcases hd with hd | rfl
  · obtain ⟨c, hc, hedge⟩ := (Option.any_eq_true _ _).mp hd
    obtain ⟨s, rfl⟩ := List.getLast?_eq_some_iff.mp hc
    rintro ⟨u, rfl⟩
    rw [ht.last c (by simp)] at hedge
    cases hedge
  · exact ht.not_suffix

end Json.Inert

namespace CommentStyle

theorem fresh_eq_initial {style : CommentStyle} {t : Text} (hsingle : ∀ d ∈ style.single, ¬ d <+: t)
    (hblocks : ∀ pair ∈ style.blocks, ¬ pair.1 <+: t ∧ ¬ pair.2 <:+ t) :
    style.fresh t = .initial := by
  have hnone : style.single.find? (·.isPrefixOf t) = none := by
    simpa [List.find?_eq_none] using hsingle
  have hpairs : ∀ pairs : List (Text × Text), (∀ pair ∈ pairs, ¬ pair.1 <+: t ∧ ¬ pair.2 <:+ t) →
      blockState t pairs = .initial := by
    intro pairs h
    induction pairs with
    | nil => rfl
    | cons pair pairs ih =>
      obtain ⟨start, close⟩ := pair
      obtain ⟨hstart, hclose⟩ := h (start, close) List.mem_cons_self
      rw [blockState, if_neg (by simpa using hstart), if_neg (by simpa using hclose)]
      exact ih (fun p hp => h p (List.mem_cons_of_mem _ hp))
  rw [fresh, hnone]
  exact hpairs style.blocks hblocks

def standardStyles : List CommentStyle := [.cFamily, .hashAndQuotes, .markupBlocks, .hash]

theorem fresh_of_inert {style : CommentStyle} (hstyle : style ∈ standardStyles) {t : Text}
    (ht : Json.Inert t) : style.fresh t = .initial := by
  have hall : ∀ style ∈ standardStyles,
      (∀ d ∈ style.single, d.head?.any (fun c => !Json.isEdge c) = true ∨ d = Json.tripleQuote) ∧
      ∀ pair ∈ style.blocks,
        (pair.1.head?.any (fun c => !Json.isEdge c) = true ∨ pair.1 = Json.tripleQuote) ∧
        (pair.2.getLast?.any (fun c => !Json.isEdge c) = true ∨ pair.2 = Json.tripleQuote) := by
    decide
  obtain ⟨hsingle, hblocks⟩ := hall style hstyle
  apply fresh_eq_initial
  · exact fun d hd => ht.not_starts (hsingle d hd)
  · exact fun pair hpair =>
      ⟨ht.not_starts (hblocks pair hpair).1, ht.not_ends (hblocks pair hpair).2⟩

end CommentStyle

section Lines

variable {style : CommentStyle} {lines : List Text}

theorem CommentStyle.after_eq_initial (h : ∀ l ∈ lines, style.fresh l.trim = .initial) :
    style.after lines = .initial := by
  induction lines using List.reverseRecOn with
  | nil => rfl
  | append_singleton lines line ih =>
    rw [after_append_singleton, ih (fun l hl => h l (List.mem_append_left _ hl)), classify_initial]
    exact h line (by simp)

theorem CommentStyle.eq_initial_of_mem_feedLines (marker : Text)
    (h : ∀ l ∈ lines, style.fresh l.trim = .initial) :
    ∀ r ∈ style.feedLines marker .initial lines, r.1 = .initial := by
  induction lines with
  | nil => exact List.forall_mem_nil _
  | cons line rest ih =>
    have hline : (style.feed marker .initial line.dropLineEnd).1 = .initial := by
      have hclassify : style.classify .initial line.dropLineEnd = .initial := by
        rw [classify_dropLineEnd, classify_initial]
        exact h line List.mem_cons_self
      exact hclassify
    simp only [feedLines, hline]
    exact List.forall_mem_cons.mpr ⟨hline, ih fun l hl => h l (List.mem_cons_of_mem line hl)⟩

theorem scanLines_eq_nil {search : Search}
    (h : ∀ l ∈ lines, search.style.fresh l.trim = .initial) : scanLines search lines = [] := by
  rw [scanLines_eq, List.eq_nil_iff_forall_not_mem]
  intro t ht
  obtain ⟨i, r, hi, hfound, -, -⟩ := Tag.mem_ofRemarks ht
  have hr := List.mem_of_getElem? hi
  obtain ⟨s, line, rfl⟩ := search.style.exists_feed_of_mem search.marker hr
  have hkind := search.style.isComment_of_found search.marker hfound
  rw [CommentStyle.eq_initial_of_mem_feedLines search.marker h _ hr] at hkind
  cases hkind

end Lines

namespace Report

theorem inert_of_mem_lines {r : Report} {line : Text} (h : line ∈ r.text.lines) :
    Json.Inert line.trim := by
  have hplain : Json.Plain (fun _ => True) 3 r.json := plain_json trivial (fun _ _ => trivial) 0
  exact Json.quiet_write hplain 2 0 line h

theorem readText_save {r : Report} {disk : Disk} (hcwd : disk.HasCwd) {path : Text} {saved : Saved}
    (h : r.save disk path = .ok saved) (codecs : Codecs) :
    saved.disk.readText saved.path Settings.standard.encoding codecs =
      .ok ⟨r.text.lines, none⟩ := by
  have hname : Encoding.ofFileName? Settings.standard.encoding = some .utf8 := by decide +kernel
  have htext : Encoding.utf8.decode? (Utf8.encode r.text) = some r.text := by
    rw [Encoding.decode?, Utf8.lenient_encode]
  have hread :=
    Disk.readText_of_decode? (by decide) hname (readBytes_save hcwd h) htext codecs
  rw [hread, r.unifyLineEnds_text]

/-- A report holds no comments. Behind any of its lines, each of its lines is code in every known
style, so nothing is found in a report, whatever is looked for; and these are the lines that are
read from a file the report was saved to. -/
theorem text_inert (r : Report) {style : CommentStyle}
    (hstyle : style ∈ CommentStyle.standardStyles) (marker sourceFile : Text) :
    (∀ before line, before ⊆ r.text.lines → line ∈ r.text.lines →
      style.classify (style.after before) line = .initial) ∧
    scanLines ⟨style, marker, sourceFile⟩ r.text.lines = [] ∧
    ∀ disk path saved codecs, disk.HasCwd → r.save disk path = .ok saved →
      saved.disk.readText saved.path Settings.standard.encoding codecs =
        .ok ⟨r.text.lines, none⟩ := by
  have hfresh : ∀ l ∈ r.text.lines, style.fresh l.trim = .initial :=
    fun l hl => CommentStyle.fresh_of_inert hstyle (inert_of_mem_lines hl)
  refine ⟨fun before line hbefore hline => ?_, scanLines_eq_nil hfresh,
    fun disk path saved codecs hcwd hsave => readText_save hcwd hsave codecs⟩
  have hafter : style.after before = .initial :=
    CommentStyle.after_eq_initial fun l hl => hfresh l (hbefore hl)
  rw [hafter, CommentStyle.classify_initial]
  exact hfresh line hline

theorem text_inert_thorny :
    CommentStyle.hashAndQuotes ∈ CommentStyle.standardStyles ∧
      scanLines ⟨.hashAndQuotes, "@TODO".toList, "report.json".toList⟩ thorny.text.lines = [] := by
  have hstyle : CommentStyle.hashAndQuotes ∈ CommentStyle.standardStyles := by decide
  exact ⟨hstyle, (text_inert thorny hstyle _ _).2.1⟩

end Report

end CommentTags
