import CommentTags.Proofs.Ignore.Pieces

namespace CommentTags.Glob

/-- The glob fits the whole path. It is `fresh` at its start and just after a slash, where two
stars or more that a slash follows stand for directories, and at the end for anything. -/
inductive Matches : (fresh : Bool) → (glob path : Text) → Prop where
  | nil {fresh : Bool} : Matches fresh [] []
  | char {fresh : Bool} {c : Char} {glob path : Text} (hstar : c ≠ '*') (hone : c ≠ '?')
      (hclass : c ≠ '[') (hback : c = '\\' → glob = []) (h : Matches (c == '/') glob path) :
      Matches fresh (c :: glob) (c :: path)
  | escaped {fresh : Bool} {c : Char} {glob path : Text} (h : Matches (c == '/') glob path) :
      Matches fresh ('\\' :: c :: glob) (c :: path)
  | one {fresh : Bool} {c : Char} {glob path : Text} (hc : c ≠ '/') (h : Matches false glob path) :
      Matches fresh ('?' :: glob) (c :: path)
  | oneOf {fresh negated : Bool} {mark body : Text} {c : Char} {glob path : Text}
      (hclass : Encloses negated mark body) (hc : Lists c body ↔ negated = false)
      (h : Matches false glob path) :
      Matches fresh ('[' :: (mark ++ (body ++ ']' :: glob))) (c :: path)
  | run {fresh : Bool} {n : ℕ} {glob name path : Text} (hn : 0 < n)
      (hg : glob.head? ≠ some '*')
      (hcross : fresh = true → 2 ≤ n → glob ≠ [] ∧ glob.head? ≠ some '/')
      (hname : '/' ∉ name) (h : Matches false glob path) :
      Matches fresh (List.replicate n '*' ++ glob) (name ++ path)
  | noDirs {n : ℕ} {glob path : Text} (hn : 2 ≤ n) (h : Matches true glob path) :
      Matches true (List.replicate n '*' ++ '/' :: glob) path
  | dirs {n : ℕ} {glob dirs path : Text} (hn : 2 ≤ n) (h : Matches true glob path) :
      Matches true (List.replicate n '*' ++ '/' :: glob) (dirs ++ '/' :: path)
  | all {n : ℕ} {path : Text} (hn : 2 ≤ n) : Matches true (List.replicate n '*') path

variable {fresh : Bool} {glob : Text}

theorem pieces?_char {c : Char} (hstar : c ≠ '*') (hone : c ≠ '?') (hclass : c ≠ '[')
    (hback : c = '\\' → glob = []) :
    pieces? fresh (c :: glob) = (pieces? (c == '/') glob).map (.char c :: ·) := by
  rw [pieces?]
  · exact hstar
  · exact hone
  · exact hclass
  · rintro d t hc rfl
    cases hback hc

theorem pieces?_oneOf {negated : Bool} {mark body : Text} (h : Encloses negated mark body) :
    pieces? fresh ('[' :: (mark ++ (body ++ ']' :: glob))) =
      (pieces? false glob).map (.oneOf negated body :: ·) := by
  have hclass := classAt?_of_encloses h glob
  rw [pieces?]
  split
  · rename_i he
    rw [he] at hclass
    cases hclass
  · rename_i p rest he
    rw [he] at hclass
    cases hclass
    rfl

theorem dropWhile_stars_append (n : ℕ) (h : glob.head? ≠ some '*') :
    (List.replicate n '*' ++ glob).dropWhile (· == '*') = glob := by
  rw [List.dropWhile_append_of_pos (by simp)]
  cases glob with
  | nil => rfl
  | cons c t => simpa using h

theorem head?_stars_append (n : ℕ) (h : glob.head? ≠ some '*') :
    ((List.replicate n '*' ++ glob).head? == some '*') = decide (0 < n) := by
  cases n with
  | zero => simpa using h
  | succ n => rfl

theorem pieces?_stars (n : ℕ) :
    pieces? fresh (List.replicate (n + 1) '*') =
      some [if fresh && decide (0 < n) then .all else .run] := by
  have hend : ([] : Text).head? ≠ some '*' := by simp
  have hdrop := dropWhile_stars_append n hend
  have hhead := head?_stars_append n hend
  rw [List.append_nil] at hdrop hhead
  rw [List.replicate_succ, pieces?, hhead]
  split
  · rfl
  · rename_i he
    rw [hdrop] at he
    cases he

theorem pieces?_stars_cons (n : ℕ) {c : Char} (hc : c ≠ '*') :
    pieces? fresh (List.replicate (n + 1) '*' ++ c :: glob) =
      if fresh && decide (0 < n) && c == '/' then (pieces? true glob).map (.dirs :: ·)
      else (pieces? false (c :: glob)).map (.run :: ·) := by
  have hne : (c :: glob).head? ≠ some '*' := by simpa using hc
  have hdrop := dropWhile_stars_append n hne
  rw [List.replicate_succ, List.cons_append, pieces?, head?_stars_append n hne]
  split
  · rename_i he
    rw [hdrop] at he
    cases he
  · rename_i d t he
    rw [hdrop] at he
    cases he
    rfl

theorem exists_stars (s : Text) :
    ∃ n, s = List.replicate n '*' ++ s.dropWhile (· == '*') ∧
      (s.dropWhile (· == '*')).head? ≠ some '*' := by
  refine ⟨(s.takeWhile (· == '*')).length, ?_, ?_⟩
  · have hall : s.takeWhile (· == '*') =
        List.replicate (s.takeWhile (· == '*')).length '*' := by
      apply List.eq_replicate_of_mem
      intro c hc
      simpa using List.mem_takeWhile_imp hc
    rw [← hall, List.takeWhile_append_dropWhile]
  · intro h
    obtain ⟨t, ht⟩ := List.head?_eq_some_iff.mp h
    have hnot := List.head_dropWhile_not (· == '*') (l := s) (by simp [ht])
    simp [ht] at hnot

theorem exists_pieces_cons {fresh' : Bool} {rest path t : Text} {p : Piece}
    (hp : pieces? fresh glob = (pieces? fresh' rest).map (p :: ·)) (htakes : p.Takes path t)
    (h : ∃ ps, pieces? fresh' rest = some ps ∧ fits ps t = true) :
    ∃ ps, pieces? fresh glob = some ps ∧ fits ps path = true := by
  obtain ⟨ps, hps, hfits⟩ := h
  refine ⟨p :: ps, by rw [hp, hps]; rfl, ?_⟩
  exact (fits_cons_iff p ps path).mpr ⟨t, htakes, hfits⟩

theorem Matches.exists_pieces {path : Text} (h : Matches fresh glob path) :
    ∃ ps, pieces? fresh glob = some ps ∧ fits ps path = true := by
  induction h with
  | nil => exact ⟨[], by rw [pieces?], rfl⟩
  | char hstar hone hclass hback _ ih =>
    exact exists_pieces_cons (pieces?_char hstar hone hclass hback) rfl ih
  | @escaped fresh c glob path _ ih =>
    exact exists_pieces_cons (p := .char c) (by rw [pieces?]) rfl ih
  | one hc _ ih => exact exists_pieces_cons (p := .one) (by rw [pieces?]) ⟨_, hc, rfl⟩ ih
  | oneOf hclass hc _ ih =>
    exact exists_pieces_cons (pieces?_oneOf hclass)
      ⟨_, (classAccepts_iff _ _ _).mpr hc, rfl⟩ ih
  | @run fresh n glob name path hn hg hcross hname h ih =>
    obtain ⟨m, rfl⟩ : ∃ m, n = m + 1 := ⟨n - 1, by omega⟩
    cases glob with
    | nil =>
      have hp : pieces? fresh (List.replicate (m + 1) '*' ++ []) =
          (pieces? false []).map (.run :: ·) := by
        rw [List.append_nil, pieces?_stars, if_neg, pieces?]
        · rfl
        · intro hf
          rw [Bool.and_eq_true, decide_eq_true_eq] at hf
          exact (hcross hf.1 (by omega)).1 rfl
      exact exists_pieces_cons hp ⟨name, hname, rfl⟩ ih
    | cons c glob =>
      have hp : pieces? fresh (List.replicate (m + 1) '*' ++ c :: glob) =
          (pieces? false (c :: glob)).map (.run :: ·) := by
        rw [pieces?_stars_cons m (by simpa using hg), if_neg]
        intro hf
        rw [Bool.and_eq_true, Bool.and_eq_true, decide_eq_true_eq, beq_iff_eq] at hf
        exact (hcross hf.1.1 (by omega)).2 (congrArg some hf.2)
      exact exists_pieces_cons hp ⟨name, hname, rfl⟩ ih
  | @noDirs n glob path hn _ ih =>
    obtain ⟨m, rfl⟩ : ∃ m, n = m + 2 := ⟨n - 2, by omega⟩
    exact exists_pieces_cons (pieces?_stars_cons (m + 1) (by decide)) (.inl rfl) ih
  | @dirs n glob dirs path hn _ ih =>
    obtain ⟨m, rfl⟩ : ∃ m, n = m + 2 := ⟨n - 2, by omega⟩
    exact exists_pieces_cons (pieces?_stars_cons (m + 1) (by decide)) (.inr ⟨dirs, rfl⟩) ih
  | @all n path hn =>
    obtain ⟨m, rfl⟩ : ∃ m, n = m + 2 := ⟨n - 2, by omega⟩
    refine ⟨[.all], pieces?_stars (m + 1), ?_⟩
    exact (fits_cons_iff _ _ _).mpr ⟨[], List.nil_suffix, rfl⟩

theorem exists_takes_of_fits {fresh' : Bool} {rest path : Text} {p : Piece} {ps : List Piece}
    (h : (pieces? fresh' rest).map (p :: ·) = some ps) (hpath : '\n' ∉ path)
    (hfits : fits ps path = true)
    (ih : ∀ {ps : List Piece}, pieces? fresh' rest = some ps → ∀ {path : Text}, '\n' ∉ path →
      fits ps path = true → Matches fresh' rest path) :
    ∃ t, p.Takes path t ∧ Matches fresh' rest t := by
  obtain ⟨ps, hps, rfl⟩ := Option.map_eq_some_iff.mp h
  obtain ⟨t, htakes, hfits⟩ := (fits_cons_iff p ps path).mp hfits
  exact ⟨t, htakes, ih hps (fun hmem => hpath (htakes.suffix.mem hmem)) hfits⟩

theorem matches_of_fits {ps : List Piece} (h : pieces? fresh glob = some ps) {path : Text}
    (hpath : '\n' ∉ path) (hfits : fits ps path = true) : Matches fresh glob path := by
  fun_induction pieces? fresh glob generalizing ps path with
  | case1 =>
    cases h
    rw [(fits_nil_of_not_mem hpath).mp hfits]
    exact .nil
  | case2 fresh s hr =>
    obtain ⟨n, hs, -⟩ := exists_stars s
    rw [hr, List.append_nil] at hs
    have hend : ([] : Text).head? ≠ some '*' := by simp
    have hhead := head?_stars_append n hend
    rw [List.append_nil, ← hs] at hhead
    rw [hhead] at h
    have hstars : '*' :: s = List.replicate (n + 1) '*' := by rw [List.replicate_succ, ← hs]
    rw [hstars]
    cases h
    by_cases hall : (fresh && decide (0 < n)) = true
    · rw [Bool.and_eq_true, decide_eq_true_eq] at hall
      rw [hall.1]
      exact .all (by omega)
    · rw [if_neg hall, fits_cons_iff] at hfits
      obtain ⟨t, ⟨name, hname, rfl⟩, hfits⟩ := hfits
      rw [List.mem_append, not_or] at hpath
      rw [(fits_nil_of_not_mem hpath.2).mp hfits, ← List.append_nil (List.replicate (n + 1) '*')]
      refine .run (by omega) (by simp) ?_ hname .nil
      intro hfresh hn
      exact absurd (by rw [hfresh, decide_eq_true (by omega)]; rfl) hall
  | case3 fresh s c t hr hcross ih =>
    obtain ⟨n, hs, hne⟩ := exists_stars s
    rw [hr] at hs hne
    rw [hs, head?_stars_append n hne, Bool.and_eq_true, Bool.and_eq_true, decide_eq_true_eq,
      beq_iff_eq] at hcross
    obtain ⟨⟨rfl, hn⟩, rfl⟩ := hcross
    rw [hs, ← List.cons_append, ← List.replicate_succ]
    obtain ⟨t', rfl | ⟨dirs, rfl⟩, h⟩ := exists_takes_of_fits h hpath hfits ih
    · exact .noDirs (by omega) h
    · exact .dirs (by omega) h
  | case4 fresh s c t hr hcross ih =>
    obtain ⟨n, hs, hne⟩ := exists_stars s
    rw [hr] at hs hne
    rw [hs, head?_stars_append n hne] at hcross
    rw [hs, ← List.cons_append, ← List.replicate_succ]
    obtain ⟨t', ⟨name, hname, rfl⟩, h⟩ := exists_takes_of_fits h hpath hfits ih
    refine .run (by omega) hne ?_ hname h
    intro hfresh hn
    refine ⟨List.cons_ne_nil c t, ?_⟩
    intro hc
    apply hcross
    rw [hfresh, decide_eq_true (by omega), Option.some.inj hc]
    rfl
  | case5 fresh s ih =>
    obtain ⟨t, ⟨c, hc, rfl⟩, h⟩ := exists_takes_of_fits h hpath hfits ih
    exact .one hc h
  | case6 => cases h
  | case7 fresh s p rest hc ih =>
    obtain ⟨negated, mark, body, henc, rfl, rfl⟩ := encloses_of_classAt? hc
    obtain ⟨t, ⟨c, hc, rfl⟩, h⟩ := exists_takes_of_fits h hpath hfits ih
    exact .oneOf henc ((classAccepts_iff _ _ _).mp hc) h
  | case8 fresh c s ih =>
    obtain ⟨t, rfl, h⟩ := exists_takes_of_fits h hpath hfits ih
    exact .escaped h
  | case9 fresh c s hstar hone hclass hback ih =>
    obtain ⟨t, rfl, h⟩ := exists_takes_of_fits h hpath hfits ih
    refine .char hstar hone hclass ?_ h
    intro hc
    cases s with
    | nil => rfl
    | cons d s => exact (hback d s hc rfl).elim

theorem fits_iff_matches {ps : List Piece} (h : pieces? fresh glob = some ps) {path : Text}
    (hpath : '\n' ∉ path) : fits ps path = true ↔ Matches fresh glob path := by
  constructor
  · exact matches_of_fits h hpath
  · intro hmatches
    obtain ⟨ps', hps', hfits⟩ := hmatches.exists_pieces
    rw [hps'] at h
    cases h
    exact hfits

end CommentTags.Glob
