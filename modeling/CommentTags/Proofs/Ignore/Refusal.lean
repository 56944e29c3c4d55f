import CommentTags.Proofs.Ignore.Matching
import CommentTags.Proofs.Ignore.Reading

namespace CommentTags

namespace Glob

inductive Descends : (body : Text) → Prop where
  | here {low high : Char} {rest : Text} (h : high < low) : Descends (low :: '-' :: high :: rest)
  | behindRange {low high : Char} {rest : Text} (h : Descends rest) :
      Descends (low :: '-' :: high :: rest)
  | behind {c : Char} {rest : Text} (hr : ∀ high t, rest ≠ '-' :: high :: t) (h : Descends rest) :
      Descends (c :: rest)

/-- Reading the glob leads past a class with a range that runs downwards. -/
def RunsDown (glob : Text) : Prop :=
  ∃ outside classes rest, Reads glob outside classes rest ∧ ∃ c ∈ classes, Descends c.2

theorem mem_filterMap_class?_iff {ps : List Piece} {negated : Bool} {body : Text} :
    (negated, body) ∈ ps.filterMap Piece.class? ↔ .oneOf negated body ∈ ps := by
  rw [List.mem_filterMap]
  constructor
  · rintro ⟨p, hp, hclass⟩
    cases p with
    | oneOf negated' body' =>
      cases hclass
      exact hp
    | _ => cases hclass
  · intro hp
    exact ⟨_, hp, rfl⟩

theorem runsDown_iff {fresh : Bool} {glob : Text} {ps : List Piece}
    (h : pieces? fresh glob = some ps) :
    RunsDown glob ↔ ∃ negated body, .oneOf negated body ∈ ps ∧ Descends body := by
  obtain ⟨whole, hwhole⟩ := (isReadAs_pieces? fresh glob).complete ps h
  constructor
  · rintro ⟨outside, classes, rest, hreads, ⟨negated, body⟩, hc, hdesc⟩
    obtain ⟨more, others, hclasses, -⟩ := hwhole.resume hreads
    refine ⟨negated, body, mem_filterMap_class?_iff.mp ?_, hdesc⟩
    rw [hclasses]
    exact List.mem_append_left others hc
  · rintro ⟨negated, body, hp, hdesc⟩
    exact ⟨whole, _, [], hwhole, _, mem_filterMap_class?_iff.mpr hp, hdesc⟩

theorem descends_of_inClass? {position : ℕ} {body : Text} {r : BadRange}
    (h : BadRange.inClass? position body = some r) : Descends body := by
  fun_induction BadRange.inClass? position body with
  | case1 position low high rest hlt => exact .here hlt
  | case2 position low high rest hlt ih => exact .behindRange (ih h)
  | case3 position c rest hr ih => exact .behind (fun high t he => hr high t he) (ih h)
  | case4 => cases h

theorem exists_descends_of_first? {position : ℕ} {ps : List Piece} {r : BadRange}
    (h : BadRange.first? position ps = some r) :
    ∃ negated body, .oneOf negated body ∈ ps ∧ Descends body := by
  induction ps generalizing position with
  | nil => cases h
  | cons p ps ih =>
    unfold BadRange.first? at h
    dsimp only at h
    split at h
    · rename_i here
      cases p with
      | oneOf negated body =>
        exact ⟨negated, body, List.mem_cons_self, descends_of_inClass? here⟩
      | _ => cases here
    · obtain ⟨negated, body, hp, hdesc⟩ := ih h
      exact ⟨negated, body, List.mem_cons_of_mem p hp, hdesc⟩

end Glob

namespace Regex

theorem classItems?_marked_of_descends {body : Text} (h : Glob.Descends body) :
    classItems? (marked body) = none := by
  induction h with
  | here hlt => rw [classItems?_marked_range, if_pos hlt]
  | behindRange _ ih =>
    rw [classItems?_marked_range, ih]
    split <;> rfl
  | behind hr _ ih =>
    rw [classItems?_marked_cons hr, ih]
    rfl

theorem not_descends_of_inClass? {position : ℕ} {body : Text}
    (h : BadRange.inClass? position body = none) : ¬ Glob.Descends body := by
  intro hdesc
  have hitems := classItems?_marked h
  rw [classItems?_marked_of_descends hdesc] at hitems
  cases hitems

variable {outer : List (List Regex)} {items : List Regex}

theorem read?_of_descends {ps : List Piece}
    (henc : ∀ negated body, .oneOf negated body ∈ ps → ∃ mark, Glob.Encloses negated mark body)
    (h : ∃ negated body, .oneOf negated body ∈ ps ∧ Glob.Descends body) (s : Text) :
    read? outer items (ps.flatMap Piece.regex ++ s) = none := by
  induction ps generalizing items with
  | nil =>
    obtain ⟨_, _, hp, -⟩ := h
    cases hp
  | cons p ps ih =>
    rw [List.flatMap_cons, List.append_assoc]
    by_cases hp : ∃ negated body, p = .oneOf negated body ∧ Glob.Descends body
    · obtain ⟨negated, body, rfl, hdesc⟩ := hp
      obtain ⟨mark, hmark⟩ := henc negated body List.mem_cons_self
      rw [read?_oneOf hmark, classItems?_marked_of_descends hdesc]
      rfl
    · -- The pieces in front of the first such class are read, and the reading stops at it.
      have hsound : Sound p := by
        rintro negated body rfl
        refine ⟨henc negated body List.mem_cons_self, 0, ?_⟩
        rw [Option.eq_none_iff_forall_ne_some]
        intro r hr
        exact hp ⟨negated, body, rfl, Glob.descends_of_inClass? hr⟩
      obtain ⟨negated, body, hmem, hdesc⟩ := h
      rw [read?_piece hsound]
      apply ih (fun negated body hmem => henc negated body (List.mem_cons_of_mem p hmem))
      rcases List.mem_cons.mp hmem with he | hmem
      · exact absurd ⟨negated, body, he.symm, hdesc⟩ hp
      · exact ⟨negated, body, hmem, hdesc⟩

theorem ofText?_regex_eq_none_iff {ps : List Piece}
    (henc : ∀ negated body, .oneOf negated body ∈ ps → ∃ mark, Glob.Encloses negated mark body) :
    ofText? (Glob.regex ps) = none ↔
      ∃ negated body, .oneOf negated body ∈ ps ∧ Glob.Descends body := by
  constructor
  · intro hnone
    cases hfirst : BadRange.first? 1 ps with
    | some r => exact Glob.exists_descends_of_first? hfirst
    | none =>
      have hsound : ∀ p ∈ ps, Sound p := by
        rintro p hp negated body rfl
        exact ⟨henc negated body hp, exists_inClass?_of_mem hfirst hp⟩
      rw [ofText?_regex hsound] at hnone
      cases hnone
  · intro hdesc
    rw [ofText?, Glob.regex, read?]
    exact read?_of_descends henc hdesc ['$']

end Regex

namespace IgnoreLine

/-- The raw text of a line asks for nothing: it is blank, a comment, or slashes only, behind an
exclamation mark or not. -/
def IsIdle (raw : Text) : Prop :=
  (∀ c ∈ raw, Text.isBlank c = true) ∨ raw.head? = some '#' ∨
    ∃ slashes, (∀ c ∈ slashes, c = '/') ∧ (raw = slashes ∨ raw = '!' :: slashes)

def pieces? (l : IgnoreLine) : Option (List Piece) :=
  (Glob.pieces? true l.glob).map (fun own => if l.anchored then own else .dirs :: own)

def regex? (l : IgnoreLine) : Option Text := l.pieces?.map Glob.regex

theorem slashes_of_splitMark {raw : Text} :
    (∀ c ∈ (splitMark raw).2, c = '/') ↔
      ∃ slashes, (∀ c ∈ slashes, c = '/') ∧ (raw = slashes ∨ raw = '!' :: slashes) := by
  obtain ⟨mark, hraw, hmark⟩ := exists_splitMark_append raw
  generalize (splitMark raw).2 = body at *
  generalize (splitMark raw).1 = negated at *
  subst hraw
  rcases hmark with ⟨-, rfl⟩ | ⟨-, rfl, hkept⟩ | ⟨-, rfl, hbang, -, -⟩
  · constructor
    · intro hall
      exact ⟨body, hall, .inr rfl⟩
    · rintro ⟨slashes, hall, rfl | he⟩
      · exact absurd (hall '!' List.mem_cons_self) (by decide)
      · obtain rfl : body = slashes := (List.cons.inj he).2
        exact hall
  · have hbody : ∃ c t, c ≠ '/' ∧ body = c :: t := by
      rcases hkept with ⟨t, ht⟩ | ⟨t, ht⟩
      · exact ⟨'!', t, by decide, (List.cons.inj ht).2.symm⟩
      · exact ⟨'#', t, by decide, (List.cons.inj ht).2.symm⟩
    obtain ⟨c, t, hc, rfl⟩ := hbody
    constructor
    · intro hall
      exact absurd (hall c List.mem_cons_self) hc
    · rintro ⟨slashes, hall, rfl | he⟩
      · exact absurd (hall '\\' List.mem_cons_self) (by decide)
      · cases he
  · constructor
    · intro hall
      exact ⟨body, hall, .inl rfl⟩
    · rintro ⟨slashes, hall, rfl | rfl⟩
      · exact hall
      · exact absurd ⟨slashes, rfl⟩ hbang

theorem ofLine?_eq_none_iff {line : Text} : ofLine? line = none ↔ IsIdle (strip line) := by
  have hglob (body : Text) :
      (Text.dropEndWhile (· == '/') body).dropWhile (· == '/') = [] ↔ ∀ c ∈ body, c = '/' := by
    constructor
    · intro he c hc
      obtain ⟨front, back, hfront, hback, hopen, hbody⟩ := exists_outer_slashes body
      rw [he, List.append_nil] at hopen
      rw [hbody, hopen, List.mem_append] at hc
      exact hc.elim (hfront c) (hback c)
    · intro hall
      rw [List.dropWhile_eq_nil_iff]
      intro c hc
      simpa using hall c (Text.dropEndWhile_subset _ _ hc)
  rw [IsIdle, ← slashes_of_splitMark, ← hglob, ← Text.trim_eq_nil_iff, ← or_assoc, ofLine?]
  dsimp only
  by_cases hraw : ((strip line).trim.isEmpty || (strip line).head? == some '#') = true
  · rw [if_pos hraw]
    rw [Bool.or_eq_true, List.isEmpty_iff, beq_iff_eq] at hraw
    exact iff_of_true rfl (.inl hraw)
  · rw [if_neg hraw, ← List.isEmpty_iff (l := List.dropWhile _ _)]
    rw [Bool.or_eq_true, List.isEmpty_iff, beq_iff_eq] at hraw
    split
    · rename_i hslashes
      exact iff_of_true rfl (.inr hslashes)
    · rename_i hslashes
      exact iff_of_false (by simp) (not_or.mpr ⟨hraw, hslashes⟩)

variable {l : IgnoreLine} {ps : List Piece}

theorem pieces?_eq_none_iff : l.pieces? = none ↔ Glob.LeavesOpen l.glob := by
  rw [pieces?, Option.map_eq_none_iff]
  exact Glob.pieces?_eq_none_iff

theorem mem_pieces_iff (h : l.pieces? = some ps) :
    ∃ own, Glob.pieces? true l.glob = some own ∧
      ∀ negated body, .oneOf negated body ∈ ps ↔ .oneOf negated body ∈ own := by
  obtain ⟨own, hown, rfl⟩ := Option.map_eq_some_iff.mp h
  refine ⟨own, hown, ?_⟩
  intro negated body
  split
  · rfl
  · simp

theorem exists_encloses_of_mem (h : l.pieces? = some ps) (negated : Bool) (body : Text)
    (hp : .oneOf negated body ∈ ps) : ∃ mark, Glob.Encloses negated mark body := by
  obtain ⟨own, hown, hmem⟩ := mem_pieces_iff h
  exact Glob.encloses_of_mem_pieces hown ((hmem negated body).mp hp)

theorem runsDown_glob_iff (h : l.pieces? = some ps) :
    Glob.RunsDown l.glob ↔ ∃ negated body, .oneOf negated body ∈ ps ∧ Glob.Descends body := by
  obtain ⟨own, hown, hmem⟩ := mem_pieces_iff h
  simp only [Glob.runsDown_iff hown, hmem]

theorem ofText?_eq_none_iff (h : l.pieces? = some ps) :
    Regex.ofText? (Glob.regex ps) = none ↔ Glob.RunsDown l.glob := by
  rw [runsDown_glob_iff h]
  exact Regex.ofText?_regex_eq_none_iff (exists_encloses_of_mem h)

theorem compileGlob_of_none (h : l.pieces? = none) :
    IgnorePattern.compileGlob l = .error .unterminatedClass := by
  rw [pieces?, Option.map_eq_none_iff] at h
  simp [IgnorePattern.compileGlob, h]

theorem compileGlob_of_some (h : l.pieces? = some ps) :
    IgnorePattern.compileGlob l =
      match BadRange.first? 1 ps with
      | some r => .error (.badRange r (Glob.regex ps))
      | none => .ok ps := by
  obtain ⟨own, hown, rfl⟩ := Option.map_eq_some_iff.mp h
  cases hfirst : BadRange.first? 1 (if l.anchored then own else .dirs :: own) with
  | none => simp only [IgnorePattern.compileGlob, hown, hfirst]
  | some r => simp only [IgnorePattern.compileGlob, hown, hfirst]

theorem compileGlob_eq_ok_iff (h : l.pieces? = some ps) :
    IgnorePattern.compileGlob l = .ok ps ↔ ¬ Glob.RunsDown l.glob := by
  rw [compileGlob_of_some h, runsDown_glob_iff h]
  cases hfirst : BadRange.first? 1 ps with
  | some r => exact iff_of_false (by simp) (not_not.mpr (Glob.exists_descends_of_first? hfirst))
  | none =>
    refine iff_of_true rfl ?_
    rintro ⟨negated, body, hp, hdesc⟩
    obtain ⟨position, hclass⟩ := Regex.exists_inClass?_of_mem hfirst hp
    exact Regex.not_descends_of_inClass? hclass hdesc

theorem exists_error_iff :
    (∃ problem, IgnorePattern.compileGlob l = .error problem) ↔
      Glob.LeavesOpen l.glob ∨ Glob.RunsDown l.glob := by
  cases hps : l.pieces? with
  | none => exact iff_of_true ⟨_, compileGlob_of_none hps⟩ (.inl (pieces?_eq_none_iff.mp hps))
  | some ps =>
    have hclosed : ¬ Glob.LeavesOpen l.glob := by
      rw [← pieces?_eq_none_iff, hps]
      simp
    rw [or_iff_right hclosed, ← not_iff_not, ← compileGlob_eq_ok_iff hps, compileGlob_of_some hps]
    cases BadRange.first? 1 ps <;> simp

end IgnoreLine

namespace IgnorePattern

variable {line : Text} {number : Option ℤ}

theorem ofLine_eq_ok_none_iff : ofLine line number = .ok none ↔ IgnoreLine.ofLine? line = none := by
  unfold ofLine
  split
  · rename_i hl
    exact iff_of_true rfl hl
  · rename_i l hl
    rw [hl]
    split <;> simp

theorem exists_error_of_ofLine_iff : (∃ e, ofLine line number = .error e) ↔
    ∃ l, IgnoreLine.ofLine? line = some l ∧ ∃ problem, compileGlob l = .error problem := by
  unfold ofLine
  split
  · rename_i hl
    rw [hl]
    simp
  · rename_i l hl
    rw [hl]
    split
    · rename_i problem hproblem
      exact iff_of_true ⟨_, rfl⟩ ⟨l, rfl, problem, hproblem⟩
    · rename_i hps
      simp [hps]

/-- A line gives nothing exactly if its raw text is idle, and is refused exactly if its glob leaves
a class open or has a range that runs downwards. Without an open class a regular expression is
written, which can be read exactly if there is no such range; then it is that of the pattern. No
class that is read is empty. -/
theorem ofLine_outcome (line : Text) (number : Option ℤ) :
    ∃ raw spaces ending, IgnoreLine.Strips line raw spaces ending ∧
      (ofLine line number = .ok none ↔ IgnoreLine.IsIdle raw) ∧
      ((∃ e, ofLine line number = .error e) ↔ ∃ l, IgnoreLine.ofLine? line = some l ∧
        (Glob.LeavesOpen l.glob ∨ Glob.RunsDown l.glob)) ∧
      (∀ l, IgnoreLine.ofLine? line = some l →
        l.raw = raw ∧ (∃ mark front back, l.Parts mark front back) ∧
        (l.regex? = none ↔ Glob.LeavesOpen l.glob) ∧
        ∀ text, l.regex? = some text →
          (Regex.ofText? text = none ↔ Glob.RunsDown l.glob) ∧
          ∀ r, Regex.ofText? text = some r →
            ∃ p, ofLine line number = .ok (some p) ∧ p.regex = text) ∧
      ∀ s negated body rest, Glob.classAt? s = some (.oneOf negated body, rest) → body ≠ [] := by
  obtain ⟨spaces, ending, hstrips⟩ := IgnoreLine.exists_strips line
  refine ⟨IgnoreLine.strip line, spaces, ending, hstrips, ?_, ?_, ?_, ?_⟩
  · rw [ofLine_eq_ok_none_iff]
    exact IgnoreLine.ofLine?_eq_none_iff
  · rw [exists_error_of_ofLine_iff]
    simp only [IgnoreLine.exists_error_iff]
  · intro l hl
    obtain ⟨hraw, hparts⟩ := IgnoreLine.exists_parts hl
    refine ⟨hraw, hparts, ?_, ?_⟩
    · rw [IgnoreLine.regex?, Option.map_eq_none_iff]
      exact IgnoreLine.pieces?_eq_none_iff
    · intro text htext
      obtain ⟨ps, hps, rfl⟩ := Option.map_eq_some_iff.mp htext
      refine ⟨IgnoreLine.ofText?_eq_none_iff hps, ?_⟩
      intro r hr
      have hup : ¬ Glob.RunsDown l.glob := by
        rw [← IgnoreLine.ofText?_eq_none_iff hps, hr]
        simp
      refine ⟨⟨l.raw, ps, l.dirOnly, l.negated⟩, ?_, rfl⟩
      simp only [ofLine, hl, (IgnoreLine.compileGlob_eq_ok_iff hps).mpr hup]
  · intro s negated body rest hclass
    obtain ⟨_, mark, _, henc, he, -⟩ := Glob.encloses_of_classAt? hclass
    cases he
    exact henc.ne_nil

def bracketLine : IgnoreLine where
  raw := "\\#/[]-a]\\[[z-b]".toList
  negated := false
  dirOnly := false
  anchored := true
  glob := "#/[]-a]\\[[z-b]".toList

theorem reads_bracketLine :
    Glob.Reads bracketLine.glob "#/\\[".toList
      [(false, "]-a".toList), (false, "z-b".toList)] [] := by
  have hfirst : Glob.Encloses false [] "]-a".toList := ⟨.inr ⟨rfl, rfl, by simp⟩, by simp, by simp⟩
  have hlast : Glob.Encloses false [] "z-b".toList := ⟨.inr ⟨rfl, rfl, by simp⟩, by simp, by simp⟩
  refine .char (by decide) (by decide) (.char (by decide) (by decide) ?_)
  exact .oneOf hfirst (.escaped (.oneOf hlast (.stop [])))

theorem ofLine_outcome_bracketLine :
    IgnoreLine.ofLine? bracketLine.raw = some bracketLine ∧
      (∃ e, ofLine bracketLine.raw none = .error e) ∧
      ∃ text, bracketLine.regex? = some text ∧ Regex.ofText? text = none := by
  have hline : IgnoreLine.ofLine? bracketLine.raw = some bracketLine := by decide +kernel
  have hdown : Glob.RunsDown bracketLine.glob :=
    ⟨_, _, _, reads_bracketLine, (false, "z-b".toList), by simp, .here (by decide)⟩
  obtain ⟨_, _, _, -, -, herror, hglob, -⟩ := ofLine_outcome bracketLine.raw none
  obtain ⟨-, -, hopen, hregex⟩ := hglob bracketLine hline
  refine ⟨hline, herror.mpr ⟨bracketLine, hline, .inr hdown⟩, ?_⟩
  cases htext : bracketLine.regex? with
  | none => exact absurd (hopen.mp htext) (Glob.not_leavesOpen_of_reads reads_bracketLine)
  | some text => exact ⟨text, rfl, (hregex text htext).1.mpr hdown⟩

end IgnorePattern

end CommentTags
