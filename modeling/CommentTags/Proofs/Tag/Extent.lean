import CommentTags.Proofs.Comment.Lines
import CommentTags.Tag.Assembly

/-!
Drafts grow from the marked lines. The lines that describe a draft are read off the remarks behind
its own line, and what an assembly yields is exactly one draft for each marked line, in order.
-/

namespace CommentTags

def throughBlockEnd : List Remark → List Remark
  | [] => []
  | r :: rest => if r.1.kind = .blockEnd then [r] else r :: throughBlockEnd rest

/-- The remarks that describe a tag, out of those behind its line: the rest of a run of single-line
comments, or the rest of a block that the line leaves open, but none from the next marked line. -/
def extent (seed : CommentState) (behind : List Remark) : List Remark :=
  if seed.kind = .single then behind.takeWhile (fun r => r.1.kind == .single && !r.2.found)
  else if seed.inBlock then throughBlockEnd (behind.takeWhile (fun r => !r.2.found))
  else []

theorem extent_nil (s : CommentState) : extent s [] = [] := by
  unfold extent
  split
  · rfl
  · split <;> rfl

theorem throughBlockEnd_subset (rs : List Remark) : throughBlockEnd rs ⊆ rs := by
  induction rs with
  | nil => exact List.Subset.refl []
  | cons r rest ih =>
    unfold throughBlockEnd
    split
    · exact List.cons_subset_cons r (List.nil_subset rest)
    · exact List.cons_subset_cons r ih

theorem extent_subset (s : CommentState) (behind : List Remark) : extent s behind ⊆ behind := by
  unfold extent
  split
  · exact (List.takeWhile_sublist _).subset
  · split
    · exact List.Subset.trans (throughBlockEnd_subset _) (List.takeWhile_sublist _).subset
    · exact List.nil_subset behind

theorem extent_of_closed {s : CommentState} (hk : s.kind ≠ .single) (hb : s.inBlock = false)
    (behind : List Remark) : extent s behind = [] := by
  simp [extent, hk, hb]

theorem extent_of_closesBlock {s : CommentState} (hs : s.Coherent) (h : s.closesBlock = true)
    (behind : List Remark) : extent s behind = [] := by
  have hk : s.kind ≠ .single := by
    intro hk
    simp [CommentState.closesBlock, hk] at h
  have hb : s.inBlock = false := by
    rw [Bool.eq_false_iff]
    intro hb
    simp [CommentState.closesBlock, hs hb, hb] at h
  exact extent_of_closed hk hb behind

theorem extent_cons_of_found (s : CommentState) {r : Remark} (hr : r.2.found = true)
    (behind : List Remark) : extent s (r :: behind) = [] := by
  unfold extent
  split
  · simp [hr]
  · split
    · simp [hr, throughBlockEnd]
    · rfl

theorem extent_cons_of_not_single {s : CommentState} (hs : s.kind = .single) {r : Remark}
    (hr : r.1.kind ≠ .single) (behind : List Remark) : extent s (r :: behind) = [] := by
  simp [extent, hs, hr]

theorem extent_cons_of_single {s : CommentState} (hs : s.kind = .single) {r : Remark}
    (hr : r.1.kind = .single) (hf : r.2.found = false) (behind : List Remark) :
    extent s (r :: behind) = r :: extent r.1 behind := by
  simp [extent, hs, hr, hf]

theorem extent_cons_of_code (style : CommentStyle) {s : CommentState} (hs : s.Coherent)
    {r : Remark} {line : Text} (hr : r.1 = style.classify s line) (hc : r.1.kind = .code)
    (behind : List Remark) : extent s (r :: behind) = [] := by
  by_cases hk : s.kind = .single
  · exact extent_cons_of_not_single hk (by rw [hc]; decide) behind
  · by_cases hb : s.inBlock = true
    · obtain ⟨⟨start, close⟩, ho⟩ := Option.isSome_iff_exists.mp hb
      rcases style.classify_of_open s line start close ho with he | he
      · rw [hr, he, hs hb] at hc
        cases hc
      · rw [hr, he] at hc
        cases hc
    · exact extent_of_closed hk (Bool.eq_false_iff.mpr hb) _

theorem extent_cons_of_inBlock {s : CommentState} (hs : s.Coherent) (hb : s.inBlock = true)
    {r : Remark} {close : Text} (hr : r.1 = s ∨ r.1 = ⟨close, .blockEnd, none⟩)
    (hf : r.2.found = false) (behind : List Remark) :
    extent s (r :: behind) = r :: extent r.1 behind := by
  have hk := hs hb
  rcases hr with hr | hr
  · simp [extent, hr, hk, hb, hf, throughBlockEnd]
  · have hend : extent r.1 behind = [] := extent_of_closed (by simp [hr]) (by rw [hr]; rfl) behind
    rw [hend]
    simp [extent, hr, hk, hb, hf, throughBlockEnd]

def CommentState.SameComment (s x : CommentState) : Prop :=
  x.kind ≠ .code ∧ (s.kind = .single → x.kind = .single) ∧
    ∀ start close, s.openBlock = some (start, close) → x = s ∨ x = ⟨close, .blockEnd, none⟩

theorem kind_of_mem_extent_of_single {s : CommentState} (hs : s.kind = .single)
    {behind : List Remark} {x : Remark} (h : x ∈ extent s behind) : x.1.kind = .single := by
  rw [extent, if_pos hs] at h
  have hx := List.mem_takeWhile_imp h
  simp only [Bool.and_eq_true, beq_iff_eq] at hx
  exact hx.1

theorem state_of_mem_extent_of_open (style : CommentStyle) (marker : Text) {s : CommentState}
    (hs : s.Coherent) {start close : Text} (ho : s.openBlock = some (start, close))
    {lines : List Text} {x : Remark} (h : x ∈ extent s (style.feedLines marker s lines)) :
    x.1 = s ∨ x.1 = ⟨close, .blockEnd, none⟩ := by
  have hb : s.inBlock = true := Option.isSome_iff_exists.mpr ⟨_, ho⟩
  induction lines with
  | nil =>
    rw [CommentStyle.feedLines, extent_nil] at h
    cases h
  | cons line rest ih =>
    have hstep := style.classify_of_open s line.dropLineEnd start close ho
    cases hf : (style.feed marker s line.dropLineEnd).2.found with
    | true =>
      rw [CommentStyle.feedLines, extent_cons_of_found s hf] at h
      cases h
    | false =>
      rw [CommentStyle.feedLines, extent_cons_of_inBlock hs hb hstep hf] at h
      rcases List.mem_cons.mp h with rfl | h
      · exact hstep
      · change x ∈ extent (style.classify s line.dropLineEnd)
          (style.feedLines marker (style.classify s line.dropLineEnd) rest) at h
        rcases hstep with he | he
        · rw [he] at h
          exact ih h
        · rw [he, extent_of_closesBlock (fun hin => by cases hin) rfl] at h
          cases h

theorem sameComment_of_mem_extent (style : CommentStyle) (marker : Text) {s : CommentState}
    (hs : s.Coherent) {lines : List Text} {x : Remark}
    (h : x ∈ extent s (style.feedLines marker s lines)) : s.SameComment x.1 := by
  cases ho : s.openBlock with
  | none =>
    by_cases hk : s.kind = .single
    · have hx := kind_of_mem_extent_of_single hk h
      refine ⟨by rw [hx]; decide, fun _ => hx, ?_⟩
      intro start close h'
      rw [ho] at h'
      cases h'
    · rw [extent_of_closed hk (by rw [CommentState.inBlock, ho]; rfl)] at h
      cases h
  | some pair =>
    obtain ⟨start, close⟩ := pair
    have hb : s.inBlock = true := Option.isSome_iff_exists.mpr ⟨_, ho⟩
    have hx := state_of_mem_extent_of_open style marker hs ho h
    refine ⟨?_, fun hk => absurd hk (hs.kind_ne_single hb), ?_⟩
    · rcases hx with hx | hx <;> rw [hx]
      · rw [hs hb]
        decide
      · simp
    · intro start' close' h'
      rw [ho] at h'
      cases h'
      exact hx

namespace Draft

def describeAll (d : Draft) (rs : List Remark) : Draft :=
  rs.foldl (fun d r => d.describe r.2.text) d

def ofRemark (search : Search) (number : ℕ) (r : Remark) (behind : List Remark) : Draft :=
  describeAll ⟨search.marker, r.2.text, search.sourceFile, number, []⟩ (extent r.1 behind)

def ofRemarks (search : Search) : ℕ → List Remark → List Draft
  | _, [] => []
  | number, r :: rest =>
    if r.2.found then ofRemark search number r rest :: ofRemarks search (number + 1) rest
    else ofRemarks search (number + 1) rest

end Draft

namespace Assembly

def pending (draft : Option (Draft × LineKind)) (s : CommentState) (behind : List Remark) :
    List Yield :=
  release (draft.map (fun (d, first) => (d.describeAll (extent s behind), first)))

theorem pending_none (s : CommentState) (behind : List Remark) : pending none s behind = [] := rfl

theorem pending_of_extent_nil (draft : Option (Draft × LineKind)) {s : CommentState}
    {behind : List Remark} (h : extent s behind = []) : pending draft s behind = release draft := by
  rw [pending, h]
  cases draft <;> rfl

/-- An unfinished draft belongs to the run of single-line comments or to the block that the last
line is in. -/
structure Tracks (a : Assembly) : Prop where
  coherent : a.comment.Coherent
  live : ∀ d first, a.draft = some (d, first) →
    first = a.comment.kind ∧ (a.comment.kind = .single ∨ a.comment.inBlock = true)

theorem tracks_initial : initial.Tracks :=
  ⟨CommentState.coherent_initial, fun _ _ h => by cases h⟩

theorem absorb_yields (search : Search) (number : ℕ) {s : CommentState} (hs : s.Coherent)
    {draft : Option (Draft × LineKind)}
    (hlive : ∀ d first, draft = some (d, first) →
      first = s.kind ∧ (s.kind = .single ∨ s.inBlock = true))
    (line : Text) (behind : List Remark) :
    let r := search.style.feed search.marker s line
    (absorb search number r.1.kind r.2 draft).1 ++
        pending (absorb search number r.1.kind r.2 draft).2 r.1 behind =
      pending draft s (r :: behind) ++
        if r.2.found then [.ofDraft (.ofRemark search number r behind)] else [] := by
  intro r
  unfold absorb
  cases hf : r.2.found with
  | true =>
    rw [pending_of_extent_nil draft (extent_cons_of_found s hf behind)]
    rfl
  | false =>
    cases hdraft : draft with
    | none => rfl
    | some p =>
      obtain ⟨d, first⟩ := p
      obtain ⟨rfl, hopen⟩ := hlive d first hdraft
      by_cases hend : s.kind = .single ∧ r.1.kind ≠ .single
      · rw [pending_of_extent_nil _ (extent_cons_of_not_single hend.1 hend.2 behind)]
        simp [describe, hend, release, pending_none]
      · have hcons : extent s (r :: behind) = r :: extent r.1 behind := by
          rcases hopen with hk | hb
          · have hr : r.1.kind = .single := by
              by_contra hr
              exact hend ⟨hk, hr⟩
            exact extent_cons_of_single hk hr hf behind
          · obtain ⟨⟨start, close⟩, ho⟩ := Option.isSome_iff_exists.mp hb
            exact extent_cons_of_inBlock hs hb
              (search.style.classify_of_open s line start close ho) hf behind
        simp [describe, hend, pending, hcons, Draft.describeAll, release]

theorem step_eq (search : Search) (a : Assembly) (number : ℕ) (line : Text) :
    step search a number line =
      let r := search.style.feed search.marker a.comment line.dropLineEnd
      let p := absorb search number r.1.kind r.2 a.draft
      if r.1.kind.isComment then
        if r.1.closesBlock then (p.1 ++ release p.2, ⟨r.1, none⟩) else (p.1, ⟨r.1, p.2⟩)
      else (release a.draft, ⟨r.1, none⟩) := rfl

theorem step_comment (search : Search) (a : Assembly) (number : ℕ) (line : Text) :
    (step search a number line).2.comment = search.style.classify a.comment line.dropLineEnd := by
  rw [step_eq]
  dsimp only
  split
  · split <;> rfl
  · rfl

theorem step_yields (search : Search) {a : Assembly} (ha : a.Tracks) (number : ℕ) (line : Text)
    (behind : List Remark) :
    let r := search.style.feed search.marker a.comment line.dropLineEnd
    (step search a number line).1 ++ pending (step search a number line).2.draft r.1 behind =
      pending a.draft a.comment (r :: behind) ++
        if r.2.found then [.ofDraft (.ofRemark search number r behind)] else [] := by
  intro r
  have habsorb := absorb_yields search number ha.coherent ha.live line.dropLineEnd behind
  rw [step_eq]
  dsimp only at habsorb ⊢
  by_cases hc : r.1.kind.isComment = true
  · rw [if_pos hc]
    by_cases hclose : r.1.closesBlock = true
    · have hend : extent r.1 behind = [] :=
        extent_of_closesBlock (search.style.coherent_classify _ _ ha.coherent) hclose behind
      rw [pending_of_extent_nil _ hend] at habsorb
      rw [if_pos hclose, pending_none, List.append_nil]
      exact habsorb
    · rw [if_neg hclose]
      exact habsorb
  · have hk : r.1.kind = .code := by
      cases hk : r.1.kind <;> simp [hk, LineKind.isComment] at hc ⊢
    have hf : r.2.found ≠ true := fun hf => hc (search.style.isComment_of_found search.marker hf)
    rw [if_neg hc, if_neg hf, pending_none,
      pending_of_extent_nil _ (extent_cons_of_code search.style ha.coherent rfl hk behind)]

theorem tracks_absorb (search : Search) (number : ℕ) {a : Assembly} (ha : a.Tracks) (line : Text)
    {d : Draft} {first : LineKind} :
    let r := search.style.feed search.marker a.comment line
    r.1.kind.isComment = true → r.1.closesBlock = false →
      (absorb search number r.1.kind r.2 a.draft).2 = some (d, first) →
      first = r.1.kind ∧ (r.1.kind = .single ∨ r.1.inBlock = true) := by
  intro r hc hclose h
  have hopen : r.1.kind = .single ∨ r.1.inBlock = true := by
    cases hk : r.1.kind <;> simp [hk, LineKind.isComment, CommentState.closesBlock] at hc hclose ⊢
    exact hclose
  refine ⟨?_, hopen⟩
  unfold absorb at h
  split at h
  · cases h
    rfl
  · cases hdraft : a.draft with
    | none => rw [hdraft] at h; cases h
    | some p =>
      obtain ⟨d', first'⟩ := p
      obtain ⟨rfl, hlive⟩ := ha.live d' first' hdraft
      rw [hdraft] at h
      unfold describe at h
      dsimp only at h
      split at h
      · cases h
      · rename_i hend
        cases h
        rcases hlive with hk | hb
        · by_contra hr
          exact hend ⟨hk, fun hr' => hr (hk.trans hr'.symm)⟩
        · obtain ⟨⟨start, close⟩, ho⟩ := Option.isSome_iff_exists.mp hb
          rcases search.style.classify_of_open a.comment line start close ho with he | he
          · exact congrArg CommentState.kind he.symm
          · have hr : r.1 = ⟨close, .blockEnd, none⟩ := he
            rw [hr] at hclose
            cases hclose

theorem tracks_step (search : Search) {a : Assembly} (ha : a.Tracks) (number : ℕ) (line : Text) :
    (step search a number line).2.Tracks := by
  constructor
  · rw [step_comment]
    exact search.style.coherent_classify _ _ ha.coherent
  · intro d first h
    rw [step_comment]
    rw [step_eq] at h
    dsimp only at h
    split at h
    · rename_i hc
      split at h
      · cases h
      · rename_i hclose
        exact tracks_absorb search number ha line.dropLineEnd hc
          (Bool.eq_false_iff.mpr hclose) h
    · cases h

theorem advance_yields (search : Search) {a : Assembly} (ha : a.Tracks) (number : ℕ)
    (lines : List Text) :
    let remarks := search.style.feedLines search.marker a.comment lines
    (advance search a number lines).1 ++ release (advance search a number lines).2.draft =
      pending a.draft a.comment remarks ++
        (Draft.ofRemarks search number remarks).map Yield.ofDraft := by
  induction lines generalizing a number with
  | nil => simp [advance, CommentStyle.feedLines, Draft.ofRemarks,
      pending_of_extent_nil a.draft (extent_nil a.comment)]
  | cons line rest ih =>
    -- The state behind the line is tracked again, and the remarks go on from it.
    have ih := ih (tracks_step search ha number line) (number + 1)
    rw [step_comment] at ih
    have hstep := step_yields search ha number line
      (search.style.feedLines search.marker
        (search.style.classify a.comment line.dropLineEnd) rest)
    dsimp only [CommentStyle.feedLines, Draft.ofRemarks] at ih hstep ⊢
    simp only [advance, List.append_assoc]
    rw [ih, ← List.append_assoc]
    refine (congrArg (· ++ _) hstep).trans ?_
    rw [List.append_assoc]
    congr 1
    split <;> rfl

theorem yields_eq (search : Search) (lines : List Text) :
    yields search lines =
      (Draft.ofRemarks search 1
        (search.style.feedLines search.marker .initial lines)).map Yield.ofDraft :=
  advance_yields search tracks_initial 1 lines

end Assembly

end CommentTags
