import CommentTags.Proofs.Comment.Lines

/-!
Runs of the classification over the lines of a file. The state behind any lines is one that the
delimiters allow, and a block is open from the line that opened it up to the first later line that
ends with its closing delimiter. Outside of blocks only a run of single lines reaches into the next
line.
-/

namespace CommentTags

namespace CommentStyle

def after (style : CommentStyle) (lines : List Text) : CommentState :=
  lines.foldl style.classify .initial

structure Allows (style : CommentStyle) (s : CommentState) : Prop where
  code : s.kind = .code ↔ s = .initial
  single : s.kind = .single → s.delimiter ∈ style.single ∧ s.openBlock = none
  blockStart : s.kind = .blockStart → ∃ close, (s.delimiter, close) ∈ style.blocks ∧
    (s.openBlock = none ∨ s.openBlock = some (s.delimiter, close))
  blockEnd : s.kind = .blockEnd → (∃ start, (start, s.delimiter) ∈ style.blocks) ∧
    s.openBlock = none

variable (style : CommentStyle)

theorem after_append_singleton (lines : List Text) (line : Text) :
    style.after (lines ++ [line]) = style.classify (style.after lines) line := by
  simp [after]

theorem after_append_cons (before later : List Text) (line : Text) :
    style.after (before ++ line :: later) =
      later.foldl style.classify (style.after (before ++ [line])) := by
  simp [after]

theorem allows_initial : style.Allows .initial := by
  constructor <;> simp [CommentState.initial]

theorem allows_single {d : Text} (h : d ∈ style.single) : style.Allows ⟨d, .single, none⟩ := by
  constructor <;> simp [CommentState.initial, h]

theorem allows_blockStart {start close : Text} (h : (start, close) ∈ style.blocks)
    {pair : Option (Text × Text)} (hp : pair = none ∨ pair = some (start, close)) :
    style.Allows ⟨start, .blockStart, pair⟩ := by
  constructor
  · simp [CommentState.initial]
  · simp
  · exact fun _ => ⟨close, h, hp⟩
  · simp

theorem allows_blockEnd {start close : Text} (h : (start, close) ∈ style.blocks) :
    style.Allows ⟨close, .blockEnd, none⟩ := by
  constructor
  · simp [CommentState.initial]
  · simp
  · simp
  · exact fun _ => ⟨⟨start, h⟩, rfl⟩

theorem allows_blockState (trimmed : Text) {pairs : List (Text × Text)}
    (h : pairs ⊆ style.blocks) : style.Allows (blockState trimmed pairs) := by
  induction pairs with
  | nil => exact style.allows_initial
  | cons pair pairs ih =>
    obtain ⟨start, close⟩ := pair
    have hpair : (start, close) ∈ style.blocks := h List.mem_cons_self
    unfold blockState
    split
    · apply style.allows_blockStart hpair
      split
      · exact .inl rfl
      · exact .inr rfl
    · split
      · exact style.allows_blockEnd hpair
      · exact ih (List.subset_of_cons_subset h)

theorem allows_fresh (trimmed : Text) : style.Allows (style.fresh trimmed) := by
  unfold fresh
  split
  · rename_i d hd
    exact style.allows_single (List.mem_of_find?_eq_some hd)
  · exact style.allows_blockState trimmed (List.Subset.refl _)

theorem Allows.mem_blocks {s : CommentState} (hs : style.Allows s) {start close : Text}
    (h : s.openBlock = some (start, close)) :
    s = ⟨start, .blockStart, some (start, close)⟩ ∧ (start, close) ∈ style.blocks := by
  obtain ⟨delimiter, kind, pair⟩ := s
  obtain rfl : pair = some (start, close) := h
  cases kind with
  | code => simpa [CommentState.initial] using hs.code.mp rfl
  | single => simpa using (hs.single rfl).2
  | blockStart =>
    obtain ⟨close', hmem, hnone | hsome⟩ := hs.blockStart rfl
    · cases hnone
    · obtain ⟨rfl, rfl⟩ := Prod.mk.inj (Option.some.inj hsome)
      exact ⟨rfl, hmem⟩
  | blockEnd => simpa using (hs.blockEnd rfl).2

theorem allows_classify {s : CommentState} (hs : style.Allows s) (line : Text) :
    style.Allows (style.classify s line) := by
  cases h : s.openBlock with
  | none =>
    simp only [classify, h]
    split
    · exact hs
    · exact style.allows_fresh line.trim
  | some pair =>
    obtain ⟨start, close⟩ := pair
    rcases style.classify_of_open s line start close h with he | he
    · rwa [he]
    · rw [he]
      exact style.allows_blockEnd (hs.mem_blocks style h).2

theorem allows_after (lines : List Text) : style.Allows (style.after lines) := by
  induction lines using List.reverseRecOn with
  | nil => exact style.allows_initial
  | append_singleton lines line ih =>
    rw [after_append_singleton]
    exact style.allows_classify ih line

theorem prefix_of_openBlock_blockState {trimmed start close : Text} {pairs : List (Text × Text)}
    (h : (blockState trimmed pairs).openBlock = some (start, close)) : start <+: trimmed := by
  induction pairs with
  | nil => cases h
  | cons pair pairs ih =>
    unfold blockState at h
    split at h
    · rename_i hstart
      split at h
      · cases h
      · cases h
        exact List.isPrefixOf_iff_prefix.mp hstart
    · split at h
      · cases h
      · exact ih h

theorem not_prefix_of_openBlock_fresh {trimmed start close : Text}
    (h : (style.fresh trimmed).openBlock = some (start, close)) :
    ∀ d ∈ style.single, ¬ d <+: start := by
  intro d hd hopens
  unfold fresh at h
  split at h
  · cases h
  · rename_i hnone
    have hd := List.find?_eq_none.mp hnone d hd
    rw [List.isPrefixOf_iff_prefix] at hd
    exact hd (hopens.trans (prefix_of_openBlock_blockState h))

theorem classify_eq_fresh {s : CommentState} (hs : s.openBlock = none) {line : Text}
    {pair : Text × Text} (h : (style.classify s line).openBlock = some pair) :
    style.classify s line = style.fresh line.trim := by
  simp only [classify, hs] at h ⊢
  split at h
  · rw [hs] at h
    cases h
  · rename_i hc
    rw [if_neg hc]

theorem classify_of_not_suffix {s : CommentState} {start close line : Text}
    (hs : s.openBlock = some (start, close)) (h : ¬ close <:+ line.trim) :
    style.classify s line = s := by
  rw [style.classify_open s line start close hs, if_neg]
  rwa [List.isSuffixOf_iff_suffix]

theorem classify_of_suffix {s : CommentState} {start close line : Text}
    (hs : s.openBlock = some (start, close)) (h : close <:+ line.trim) :
    style.classify s line = ⟨close, .blockEnd, none⟩ := by
  rw [style.classify_open s line start close hs, if_pos]
  rwa [List.isSuffixOf_iff_suffix]

theorem foldl_classify_of_not_suffix {s : CommentState} {start close : Text}
    (hs : s.openBlock = some (start, close)) {lines : List Text}
    (h : ∀ line ∈ lines, ¬ close <:+ line.trim) : lines.foldl style.classify s = s := by
  induction lines with
  | nil => rfl
  | cons line lines ih =>
    rw [List.foldl_cons, style.classify_of_not_suffix hs (h line List.mem_cons_self)]
    exact ih (fun l hl => h l (List.mem_cons_of_mem _ hl))

theorem exists_opening {lines : List Text} {start close : Text}
    (h : (style.after lines).openBlock = some (start, close)) :
    ∃ before opening later, lines = before ++ opening :: later ∧
      (style.after before).openBlock = none ∧
      style.after (before ++ [opening]) = ⟨start, .blockStart, some (start, close)⟩ ∧
      ∀ line ∈ later, ¬ close <:+ line.trim := by
  induction lines using List.reverseRecOn with
  | nil => cases h
  | append_singleton lines line ih =>
    have hstate := ((style.allows_after (lines ++ [line])).mem_blocks style h).1
    rw [after_append_singleton] at h
    cases ho : (style.after lines).openBlock with
    | none => exact ⟨lines, line, [], rfl, ho, hstate, by simp⟩
    | some pair =>
      obtain ⟨start', close'⟩ := pair
      by_cases hend : close' <:+ line.trim
      · rw [style.classify_of_suffix ho hend] at h
        cases h
      · rw [style.classify_of_not_suffix ho hend] at h
        rw [h] at ho
        cases ho
        obtain ⟨before, opening, later, rfl, hnone, hopen, hlater⟩ := ih h
        refine ⟨before, opening, later ++ [line], by simp, hnone, hopen, ?_⟩
        intro l hl
        rcases List.mem_append.mp hl with hl | hl
        · exact hlater l hl
        · rwa [List.mem_singleton.mp hl]

theorem not_prefix_of_openBlock {lines : List Text} {start close : Text}
    (h : (style.after lines).openBlock = some (start, close)) :
    ∀ d ∈ style.single, ¬ d <+: start := by
  obtain ⟨before, opening, -, -, hnone, hopen, -⟩ := style.exists_opening h
  have hopen : (style.classify (style.after before) opening).openBlock = some (start, close) := by
    rw [← after_append_singleton, hopen]
  rw [style.classify_eq_fresh hnone hopen] at hopen
  exact style.not_prefix_of_openBlock_fresh hopen

/-- Every state of a run is allowed. A block is open behind the lines just if some line opened it
and no later one ends it; until then the state stays, and the line that ends it is the end of the
block. A pair that starts like a single line is never open. -/
theorem after_states :
    (∀ lines, style.Allows (style.after lines)) ∧
      (∀ lines start close, (style.after lines).openBlock = some (start, close) ↔
        ∃ before opening later, lines = before ++ opening :: later ∧
          (style.after before).openBlock = none ∧
          style.after (before ++ [opening]) = ⟨start, .blockStart, some (start, close)⟩ ∧
          ∀ line ∈ later, ¬ close <:+ line.trim) ∧
      (∀ before opening later start close,
        style.after (before ++ [opening]) = ⟨start, .blockStart, some (start, close)⟩ →
        (∀ line ∈ later, ¬ close <:+ line.trim) →
        (∀ n, style.after (before ++ opening :: later.take n) =
          style.after (before ++ [opening])) ∧
        ∀ line, close <:+ line.trim →
          style.after (before ++ opening :: later ++ [line]) = ⟨close, .blockEnd, none⟩) ∧
      (∀ lines start close, (∃ d ∈ style.single, d <+: start) →
        (style.after lines).openBlock ≠ some (start, close)) ∧
      ∀ lines, (Registry.standard.fallback.after lines).openBlock = none := by
  have hstays : ∀ (before : List Text) (opening : Text) (later : List Text) (start close : Text),
      style.after (before ++ [opening]) = ⟨start, .blockStart, some (start, close)⟩ →
      (∀ line ∈ later, ¬ close <:+ line.trim) →
      style.after (before ++ opening :: later) = style.after (before ++ [opening]) := by
    intro before opening later start close hopen hlater
    rw [after_append_cons, style.foldl_classify_of_not_suffix (by rw [hopen]) hlater]
  refine ⟨style.allows_after, ?_, ?_, ?_, ?_⟩
  · intro lines start close
    constructor
    · exact style.exists_opening
    · rintro ⟨before, opening, later, rfl, -, hopen, hlater⟩
      rw [hstays before opening later start close hopen hlater, hopen]
  · intro before opening later start close hopen hlater
    constructor
    · intro n
      exact hstays before opening (later.take n) start close hopen
        (fun line hl => hlater line (List.mem_of_mem_take hl))
    · intro line hline
      rw [after_append_singleton, hstays before opening later start close hopen hlater]
      exact style.classify_of_suffix (by rw [hopen]) hline
  · rintro lines start close ⟨d, hd, hopens⟩ h
    exact style.not_prefix_of_openBlock h d hd hopens
  · intro lines
    rw [Option.eq_none_iff_forall_ne_some]
    rintro ⟨start, close⟩ h
    have hmem := ((allows_after Registry.standard.fallback lines).mem_blocks _ h).2
    have hstart : start = "#".toList := by
      rw [Prod.mk.inj (List.mem_singleton.mp hmem) |>.1]
    exact not_prefix_of_openBlock Registry.standard.fallback h "#".toList List.mem_cons_self
      (hstart ▸ List.prefix_refl _)

def overlapping : CommentStyle :=
  ⟨["#".toList], [("#|".toList, "|#".toList), ("/*".toList, "*/".toList)]⟩

theorem after_states_overlapping :
    let before : List Text := ["int x;", "#| a |"].map String.toList
    let opening : Text := " /* b".toList
    let later : List Text := ["#| c", "d"].map String.toList
    let closing : Text := "e */ ".toList
    overlapping.after (before ++ [opening]) =
        ⟨"/*".toList, .blockStart, some ("/*".toList, "*/".toList)⟩ ∧
      (∀ line ∈ later, ¬ "*/".toList <:+ line.trim) ∧ "*/".toList <:+ closing.trim ∧
      (overlapping.after (before ++ opening :: later)).openBlock =
        some ("/*".toList, "*/".toList) ∧
      overlapping.after (before ++ opening :: later ++ [closing]) =
        ⟨"*/".toList, .blockEnd, none⟩ ∧
      (∃ d ∈ overlapping.single, d <+: "#|".toList) ∧
      (overlapping.after before).openBlock ≠ some ("#|".toList, "|#".toList) := by
  intro before opening later closing
  obtain ⟨-, hopen, hends, hnever, -⟩ := after_states overlapping
  have hstart : overlapping.after (before ++ [opening]) =
      ⟨"/*".toList, .blockStart, some ("/*".toList, "*/".toList)⟩ := by decide
  have hlater : ∀ line ∈ later, ¬ "*/".toList <:+ line.trim := by decide
  have hend : "*/".toList <:+ closing.trim := by decide
  have hsingle : ∃ d ∈ overlapping.single, d <+: "#|".toList := by decide
  refine ⟨hstart, hlater, hend, ?_, ?_, hsingle, hnever before _ _ hsingle⟩
  · exact (hopen _ _ _).mpr ⟨before, opening, later, rfl, by decide, hstart, hlater⟩
  · exact (hends before opening later _ _ hstart hlater).2 _ hend

theorem kind_blockState_ne_single (trimmed : Text) (pairs : List (Text × Text)) :
    (blockState trimmed pairs).kind ≠ .single := by
  induction pairs with
  | nil => simp [blockState, CommentState.initial]
  | cons pair pairs ih =>
    unfold blockState
    split
    · simp
    · split
      · simp
      · exact ih

theorem fresh_of_prefix {d trimmed : Text} (hsingle : style.single = [d]) (h : d <+: trimmed) :
    style.fresh trimmed = ⟨d, .single, none⟩ := by
  have hfind : style.single.find? (·.isPrefixOf trimmed) = some d := by
    rw [hsingle, List.find?_singleton, if_pos (List.isPrefixOf_iff_prefix.mpr h)]
  rw [fresh, hfind]

theorem fresh_of_not_prefix {d trimmed : Text} (hsingle : style.single = [d])
    (h : ¬ d <+: trimmed) : style.fresh trimmed = blockState trimmed style.blocks := by
  have hfind : style.single.find? (·.isPrefixOf trimmed) = none := by
    rw [hsingle, List.find?_singleton, if_neg]
    rwa [List.isPrefixOf_iff_prefix]
  rw [fresh, hfind]

/-- The line ends with the delimiter of a run of single lines, and does not start with it. -/
def Trails (s : CommentState) (line : Text) : Prop :=
  s.kind = .single ∧ s.delimiter <:+ line.trim ∧ ¬ s.delimiter <+: line.trim

instance (s : CommentState) (line : Text) : Decidable (Trails s line) :=
  inferInstanceAs (Decidable (_ ∧ _ ∧ _))

theorem Allows.single_eq {s : CommentState} (hs : style.Allows s)
    (hsingle : style.single.length ≤ 1) (hkind : s.kind = .single) :
    style.single = [s.delimiter] ∧ s = ⟨s.delimiter, .single, none⟩ := by
  obtain ⟨hmem, hnone⟩ := hs.single hkind
  have hlen : style.single.length = 1 := by
    have hpos := List.length_pos_of_mem hmem
    omega
  obtain ⟨d, hd⟩ := List.length_eq_one_iff.mp hlen
  rw [hd, List.mem_singleton] at hmem
  obtain ⟨delimiter, kind, pair⟩ := s
  obtain rfl : kind = .single := hkind
  obtain rfl : pair = none := hnone
  exact ⟨by rw [hd, hmem], rfl⟩

variable {s : CommentState} {line : Text}

theorem classify_of_trails (hopen : s.openBlock = none) (h : Trails s line) :
    style.classify s line = s := by
  have hcontinues : s.continues line.trim = true := by
    simp [CommentState.continues, h.1, h.2.1]
  simp only [classify, hopen, hcontinues, if_true]

theorem fresh_ne_of_trails (hs : style.Allows s) (hsingle : style.single.length ≤ 1)
    (h : Trails s line) : style.fresh line.trim ≠ s := by
  obtain ⟨hkind, -, hprefix⟩ := h
  rw [style.fresh_of_not_prefix (hs.single_eq style hsingle hkind).1 hprefix]
  intro he
  exact kind_blockState_ne_single line.trim style.blocks (he ▸ hkind)

theorem classify_of_not_trails (hs : style.Allows s) (hsingle : style.single.length ≤ 1)
    (hopen : s.openBlock = none) (h : ¬ Trails s line) :
    style.classify s line = style.fresh line.trim := by
  by_cases hcontinues : s.continues line.trim = true
  · obtain ⟨hkind, hends⟩ := Bool.and_eq_true_iff.mp hcontinues
    have hkind : s.kind = .single := by simpa using hkind
    rw [Bool.or_eq_true, List.isPrefixOf_iff_prefix, List.isSuffixOf_iff_suffix] at hends
    have hprefix : s.delimiter <+: line.trim := by
      rcases hends with hprefix | hsuffix
      · exact hprefix
      · exact not_not.mp (fun hnot => h ⟨hkind, hsuffix, hnot⟩)
    -- The line starts a run with the only delimiter there is, so it is the same run.
    obtain ⟨honly, hstate⟩ := hs.single_eq style hsingle hkind
    rw [style.fresh_of_prefix honly hprefix, ← hstate]
    simp only [classify, hopen, hcontinues, if_true]
  · simp only [classify, hopen, hcontinues, Bool.false_eq_true, if_false]

theorem single_length_styleOf_standard (extension : Text) :
    (Registry.standard.styleOf extension).single.length ≤ 1 := by
  have htable : ∀ entry ∈ Registry.standard.table, entry.2.single.length ≤ 1 := by decide
  unfold Registry.styleOf
  cases h : Registry.standard.table.lookup extension with
  | none => decide
  | some style =>
    obtain ⟨before, behind, hsplit, -⟩ := List.lookup_eq_some_iff.mp h
    exact htable (extension, style) (by simp [hsplit])

/-- Where single lines have one delimiter at most, a line outside of blocks is classified as a
first line would be, unless it ends a run of single lines with their delimiter. That line belongs
to the run, though as a first line it would be none. The standard styles have one at most. -/
theorem classify_after :
    (style.single.length ≤ 1 → ∀ lines, (style.after lines).openBlock = none → ∀ line,
        (style.classify (style.after lines) line = style.classify .initial line ↔
          ¬ Trails (style.after lines) line) ∧
        (Trails (style.after lines) line →
          style.classify (style.after lines) line = style.after lines)) ∧
      ∀ extension, (Registry.standard.styleOf extension).single.length ≤ 1 := by
  refine ⟨?_, single_length_styleOf_standard⟩
  intro hsingle lines hopen line
  have hallowed := style.allows_after lines
  refine ⟨?_, style.classify_of_trails hopen⟩
  rw [classify_initial]
  constructor
  · intro hsame htrails
    rw [style.classify_of_trails hopen htrails] at hsame
    exact style.fresh_ne_of_trails hallowed hsingle htrails hsame.symm
  · exact style.classify_of_not_trails hallowed hsingle hopen

theorem classify_after_cFamily :
    let lines : List Text := ["/* a */", "// b"].map String.toList
    let opening : Text := " /* c".toList
    let trailing : Text := "int n; // ".toList
    cFamily.single.length ≤ 1 ∧ (cFamily.after lines).openBlock = none ∧
      ¬ Trails (cFamily.after lines) opening ∧ Trails (cFamily.after lines) trailing ∧
      cFamily.classify (cFamily.after lines) opening = cFamily.classify .initial opening ∧
      cFamily.classify (cFamily.after lines) trailing = ⟨"//".toList, .single, none⟩ ∧
      cFamily.classify .initial trailing = .initial := by
  intro lines opening trailing
  have hsingle : cFamily.single.length ≤ 1 := by decide
  have hopen : (cFamily.after lines).openBlock = none := by decide
  have hopening : ¬ Trails (cFamily.after lines) opening := by decide
  have htrailing : Trails (cFamily.after lines) trailing := by decide
  have hafter := (classify_after cFamily).1 hsingle lines hopen
  refine ⟨hsingle, hopen, hopening, htrailing, (hafter opening).1.mpr hopening, ?_, by decide⟩
  rw [(hafter trailing).2 htrailing]
  decide

end CommentStyle

end CommentTags
