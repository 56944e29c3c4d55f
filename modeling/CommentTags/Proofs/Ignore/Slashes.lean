import CommentTags.Proofs.Ignore.Matching
import CommentTags.Proofs.Ignore.Reading

namespace CommentTags

namespace Piece

theorem takes_iff {p : Piece} {s t : Text} : p.Takes s t ↔ ∃ u, p.Takes u [] ∧ s = u ++ t := by
  cases p with
  | char c => simp [Takes]
  | one =>
    constructor
    · rintro ⟨c, hc, rfl⟩
      exact ⟨[c], ⟨c, hc, rfl⟩, rfl⟩
    · rintro ⟨_, ⟨c, hc, rfl⟩, rfl⟩
      exact ⟨c, hc, rfl⟩
  | run =>
    constructor
    · rintro ⟨name, hname, rfl⟩
      exact ⟨name, ⟨name, hname, by simp⟩, rfl⟩
    · rintro ⟨_, ⟨name, hname, rfl⟩, rfl⟩
      exact ⟨name, hname, by simp⟩
  | dirs =>
    constructor
    · rintro (rfl | ⟨dirs, rfl⟩)
      · exact ⟨[], .inl rfl, rfl⟩
      · exact ⟨dirs ++ ['/'], .inr ⟨dirs, rfl⟩, by simp⟩
    · rintro ⟨_, rfl | ⟨dirs, rfl⟩, rfl⟩
      · exact .inl rfl
      · exact .inr ⟨dirs, by simp⟩
  | all =>
    constructor
    · rintro ⟨u, rfl⟩
      exact ⟨u, List.nil_suffix, rfl⟩
    · rintro ⟨u, -, rfl⟩
      exact List.suffix_append u t
  | oneOf negated body =>
    constructor
    · rintro ⟨c, hc, rfl⟩
      exact ⟨[c], ⟨c, hc, rfl⟩, rfl⟩
    · rintro ⟨_, ⟨c, hc, rfl⟩, rfl⟩
      exact ⟨c, hc, rfl⟩

def IsCrossing (p : Piece) : Prop := p = .dirs ∨ p = .all

theorem count_of_takes {p : Piece} {s t : Text} (hp : ¬ p.IsCrossing) (h : p.Takes s t) :
    s.count '/' = t.count '/' + [p].count (.char '/') ∨
      ∃ negated body, p = .oneOf negated body ∧ classAccepts negated body '/' = true ∧
        s = '/' :: t := by
  cases p with
  | char c =>
    left
    obtain rfl : s = c :: t := h
    by_cases hc : c = '/' <;> simp [hc]
  | one =>
    left
    obtain ⟨c, hc, rfl⟩ := h
    simp [hc]
  | run =>
    left
    obtain ⟨name, hname, rfl⟩ := h
    simp [List.count_eq_zero_of_not_mem hname]
  | dirs => exact absurd (.inl rfl) hp
  | all => exact absurd (.inr rfl) hp
  | oneOf negated body =>
    obtain ⟨c, hc, rfl⟩ := h
    by_cases hslash : c = '/'
    · subst hslash
      exact .inr ⟨negated, body, rfl, hc, rfl⟩
    · left
      simp [hslash]

end Piece

namespace Glob

def Covers : List Piece → Text → Prop
  | [], s => s = []
  | p :: ps, s => ∃ t, p.Takes s t ∧ Covers ps t

theorem fits_iff_covers {ps : List Piece} {s : Text} (h : '\n' ∉ s) :
    fits ps s = true ↔ Covers ps s := by
  induction ps generalizing s with
  | nil => exact fits_nil_of_not_mem h
  | cons p ps ih =>
    rw [fits_cons_iff, Covers]
    apply exists_congr
    intro t
    apply and_congr_right
    intro htakes
    exact ih (fun hmem => h (htakes.suffix.mem hmem))

theorem covers_append {ps qs : List Piece} {s : Text} :
    Covers (ps ++ qs) s ↔ ∃ u t, Covers ps u ∧ Covers qs t ∧ s = u ++ t := by
  induction ps generalizing s with
  | nil =>
    constructor
    · intro h
      exact ⟨[], s, rfl, h, rfl⟩
    · rintro ⟨_, t, rfl, h, rfl⟩
      exact h
  | cons p ps ih =>
    rw [List.cons_append, Covers]
    simp only [ih]
    constructor
    · rintro ⟨_, htakes, u, t, hu, ht, rfl⟩
      obtain ⟨v, hv, rfl⟩ := Piece.takes_iff.mp htakes
      exact ⟨v ++ u, t, ⟨u, Piece.takes_iff.mpr ⟨v, hv, rfl⟩, hu⟩, ht, by simp⟩
    · rintro ⟨_, t, ⟨u, htakes, hu⟩, ht, rfl⟩
      obtain ⟨v, hv, rfl⟩ := Piece.takes_iff.mp htakes
      exact ⟨u ++ t, Piece.takes_iff.mpr ⟨v, hv, by simp⟩, u, t, hu, ht, rfl⟩

def TakesSlash (ps : List Piece) (s : Text) : Prop :=
  ∃ before negated body behind u t, ps = before ++ .oneOf negated body :: behind ∧
    classAccepts negated body '/' = true ∧ Covers before u ∧ Covers behind t ∧ s = u ++ '/' :: t

theorem TakesSlash.cons {p : Piece} {ps : List Piece} {s t : Text} (h : TakesSlash ps t)
    (htakes : p.Takes s t) : TakesSlash (p :: ps) s := by
  obtain ⟨before, negated, body, behind, u, t, rfl, hc, hu, ht, rfl⟩ := h
  obtain ⟨v, hv, rfl⟩ := Piece.takes_iff.mp htakes
  exact ⟨p :: before, negated, body, behind, v ++ u, t, rfl, hc,
    ⟨u, Piece.takes_iff.mpr ⟨v, hv, rfl⟩, hu⟩, ht, by simp⟩

variable {ps : List Piece} {s : Text}

theorem count_of_covers (hps : ∀ p ∈ ps, ¬ p.IsCrossing) (h : Covers ps s) :
    ps.count (.char '/') ≤ s.count '/' ∧
      (s.count '/' = ps.count (.char '/') ∨ TakesSlash ps s) := by
  induction ps generalizing s with
  | nil =>
    obtain rfl : s = [] := h
    exact ⟨le_refl 0, .inl rfl⟩
  | cons p ps ih =>
    obtain ⟨t, htakes, ht⟩ := h
    obtain ⟨hle, hcount⟩ := ih (fun q hq => hps q (List.mem_cons_of_mem p hq)) ht
    rw [← List.singleton_append, List.count_append]
    rcases Piece.count_of_takes (hps p List.mem_cons_self) htakes with
      hs | ⟨negated, body, rfl, hc, rfl⟩
    · refine ⟨by omega, ?_⟩
      rcases hcount with hcount | hslash
      · exact .inl (by omega)
      · exact .inr (hslash.cons htakes)
    · have hnone : [Piece.oneOf negated body].count (.char '/') = 0 := by simp
      rw [hnone, List.count_cons_self]
      exact ⟨by omega, .inr ⟨[], negated, body, ps, [], t, rfl, hc, rfl, ht, rfl⟩⟩

theorem count_lt_of_takesSlash (hps : ∀ p ∈ ps, ¬ p.IsCrossing) (h : TakesSlash ps s) :
    ps.count (.char '/') < s.count '/' := by
  obtain ⟨before, negated, body, behind, u, t, rfl, -, hu, ht, rfl⟩ := h
  have hbefore := (count_of_covers (fun p hp => hps p (by simp [hp])) hu).1
  have hbehind := (count_of_covers (fun p hp => hps p (by simp [hp])) ht).1
  simp only [List.count_append, List.count_cons_self]
  rw [List.count_cons_of_ne (by simp)]
  omega

def HasLooseClass (ps : List Piece) : Prop :=
  ∃ before negated body behind, ps = before ++ .oneOf negated body :: behind ∧ before ≠ [] ∧
    behind ≠ [] ∧ classAccepts negated body '/' = true

theorem exists_covers_ne_nil (hps : ∀ p ∈ ps, ¬ p.IsCrossing) (hne : ps ≠ []) (h : Covers ps s) :
    ∃ t, t ≠ [] ∧ Covers ps t ∧ (t = s ∨ s = [] ∧ t = ['x']) := by
  by_cases hs : s = []
  · subst hs
    obtain ⟨p, ps, rfl⟩ := List.exists_cons_of_ne_nil hne
    obtain ⟨t, htakes, ht⟩ := h
    have hp := hps p List.mem_cons_self
    refine ⟨['x'], by simp, ⟨[], ?_, ?_⟩, .inr ⟨rfl, rfl⟩⟩
    · cases p with
      | run => exact ⟨['x'], by decide, rfl⟩
      | char c => cases htakes
      | one =>
        obtain ⟨c, -, he⟩ := htakes
        cases he
      | oneOf negated body =>
        obtain ⟨c, -, he⟩ := htakes
        cases he
      | dirs => exact absurd (.inl rfl) hp
      | all => exact absurd (.inr rfl) hp
    · obtain rfl : t = [] := List.suffix_nil.mp htakes.suffix
      exact ht
  · exact ⟨s, hs, h, .inl rfl⟩

theorem pieces?_star {fresh : Bool} {glob : Text} (h : glob.head? ≠ some '*') :
    pieces? fresh ('*' :: glob) = (pieces? false glob).map (.run :: ·) := by
  cases glob with
  | nil =>
    rw [pieces?, pieces?]
    simp
  | cons c glob =>
    have hc : c ≠ '*' := by simpa using h
    have hstars : pieces? fresh (List.replicate 1 '*' ++ c :: glob) = _ :=
      pieces?_stars_cons 0 hc
    simpa using hstars

theorem count_cons_of_map {fresh : Bool} {rest outside : Text} {p : Piece} {qs : List Piece}
    (h : (pieces? fresh rest).map (p :: ·) = some qs) (front : Text) (hp : ¬ p.IsCrossing)
    (hfront : [p].count (.char '/') = front.count '/')
    (ih : ∀ {ps}, pieces? fresh rest = some ps →
      ps.count (.char '/') = outside.count '/' ∧ ∀ p ∈ ps, ¬ p.IsCrossing) :
    qs.count (.char '/') = (front ++ outside).count '/' ∧ ∀ q ∈ qs, ¬ q.IsCrossing := by
  obtain ⟨ps, hps, rfl⟩ := Option.map_eq_some_iff.mp h
  obtain ⟨hcount, hnone⟩ := ih hps
  constructor
  · rw [← List.singleton_append, List.count_append, hfront, hcount, List.count_append]
  · exact List.forall_mem_cons.mpr ⟨hp, hnone⟩

theorem count_of_reads {fresh : Bool} {glob outside : Text} {classes : List (Bool × Text)}
    (h : Reads glob outside classes []) (hstars : ¬ ['*', '*'] <:+: glob)
    (hps : pieces? fresh glob = some ps) :
    ps.count (.char '/') = outside.count '/' ∧ ∀ p ∈ ps, ¬ p.IsCrossing := by
  generalize hend : ([] : Text) = left at h
  induction h generalizing fresh ps with
  | stop =>
    subst hend
    rw [pieces?] at hps
    cases hps
    exact ⟨rfl, by simp⟩
  | @char c glob _ _ _ hclass hback _ ih =>
    have hrest : ¬ ['*', '*'] <:+: glob :=
      fun hin => hstars (hin.trans (List.suffix_cons c glob).isInfix)
    by_cases hstar : c = '*'
    · subst hstar
      have hnext : glob.head? ≠ some '*' := by
        intro hhead
        obtain ⟨t, rfl⟩ := List.head?_eq_some_iff.mp hhead
        exact hstars ⟨[], t, rfl⟩
      rw [pieces?_star hnext] at hps
      exact count_cons_of_map hps ['*'] (by simp [Piece.IsCrossing]) (by simp)
        (fun h => ih hrest h hend)
    · by_cases hone : c = '?'
      · subst hone
        rw [pieces?] at hps
        exact count_cons_of_map hps ['?'] (by simp [Piece.IsCrossing]) (by simp)
          (fun h => ih hrest h hend)
      · rw [pieces?_char hstar hone hclass hback] at hps
        exact count_cons_of_map hps [c] (by simp [Piece.IsCrossing])
          (by simp [List.count_singleton]) (fun h => ih hrest h hend)
  | @escaped c glob _ _ _ _ ih =>
    rw [pieces?] at hps
    refine count_cons_of_map hps ['\\', c] (by simp [Piece.IsCrossing]) ?_ (fun h => ih ?_ h hend)
    · simp [List.count_cons]
    · intro hin
      exact hstars (hin.trans (List.suffix_append ['\\', c] glob).isInfix)
  | @oneOf negated mark body glob _ _ _ hclass _ ih =>
    rw [pieces?_oneOf hclass] at hps
    refine count_cons_of_map hps [] (by simp [Piece.IsCrossing]) (by simp) (fun h => ih ?_ h hend)
    intro hin
    apply hstars (hin.trans _)
    exact ⟨'[' :: (mark ++ (body ++ [']'])), [], by simp⟩

end Glob

namespace IgnorePattern

theorem slashed_plain (path : Text) : '\\' ∉ slashed path ∧ (slashed path).head? ≠ some '/' ∧
    (slashed path).getLast? ≠ some '/' := by
  let turned : Text := path.map (fun c => if c = '\\' then '/' else c)
  obtain ⟨back, hfront, -⟩ :=
    Text.exists_dropEndWhile_append (· == '/') (turned.dropWhile (· == '/'))
  have hfront : turned.dropWhile (· == '/') = slashed path ++ back := hfront
  refine ⟨?_, ?_, ?_⟩
  · intro hmem
    have hturned : '\\' ∈ turned :=
      (List.dropWhile_sublist _).subset (Text.dropEndWhile_subset _ _ hmem)
    obtain ⟨c, -, hc⟩ := List.mem_map.mp hturned
    split at hc
    · cases hc
    · rename_i hne
      exact hne hc
  · intro hhead
    obtain ⟨t, ht⟩ := List.head?_eq_some_iff.mp hhead
    have hnot := List.head?_dropWhile_not (· == '/') turned
    rw [hfront, ht] at hnot
    simp at hnot
  · intro hlast
    simpa using Text.getLast?_dropEndWhile (· == '/') (turned.dropWhile (· == '/')) '/' hlast

theorem slashed_eq_self_iff {path : Text} :
    slashed path = path ↔ '\\' ∉ path ∧ path.head? ≠ some '/' ∧ path.getLast? ≠ some '/' := by
  constructor
  · intro h
    have hplain := slashed_plain path
    rwa [h] at hplain
  · rintro ⟨hback, hhead, hlast⟩
    have hmap : path.map (fun c => if c = '\\' then '/' else c) = path := by
      conv_rhs => rw [← List.map_id path]
      apply List.map_congr_left
      intro c hc
      exact if_neg (fun he : c = '\\' => hback (he ▸ hc))
    rw [slashed, hmap, Text.dropWhile_beq_eq_self hhead, Text.dropEndWhile_beq_eq_self hlast]

def IsTidy (path : Text) : Prop := '\n' ∉ path ∧ slashed path = path

instance (path : Text) : Decidable (IsTidy path) := inferInstanceAs (Decidable (_ ∧ _))

variable {ps : List Piece}

theorem exists_tidy_takesSlash (hps : ∀ p ∈ ps, ¬ p.IsCrossing) (hloose : Glob.HasLooseClass ps)
    {path : Text} (hpath : IsTidy path) (h : Glob.Covers ps path) :
    ∃ longer, IsTidy longer ∧ Glob.Covers ps longer ∧ Glob.TakesSlash ps longer := by
  obtain ⟨before, negated, body, behind, rfl, hbefore, hbehind, hc⟩ := hloose
  obtain ⟨u, _, hu, ⟨w, ⟨c, -, rfl⟩, hw⟩, rfl⟩ := Glob.covers_append.mp h
  obtain ⟨hline, htidy⟩ := hpath
  obtain ⟨hback, hhead, hlast⟩ := slashed_eq_self_iff.mp htidy
  obtain ⟨front, hfront, hcfront, hfu⟩ :=
    Glob.exists_covers_ne_nil (fun p hp => hps p (by simp [hp])) hbefore hu
  obtain ⟨rear, hrear, hcrear, hrw⟩ :=
    Glob.exists_covers_ne_nil (fun p hp => hps p (by simp [hp])) hbehind hw
  have hmem {d : Char} (hd : d ∈ front ++ '/' :: rear) (hx : d ≠ 'x') (hslash : d ≠ '/') :
      d ∈ u ++ c :: w := by
    rw [List.mem_append, List.mem_cons] at hd
    rcases hd with hd | hd | hd
    · rcases hfu with rfl | ⟨-, rfl⟩
      · simp [hd]
      · exact absurd (List.mem_singleton.mp hd) hx
    · exact absurd hd hslash
    · rcases hrw with rfl | ⟨-, rfl⟩
      · simp [hd]
      · exact absurd (List.mem_singleton.mp hd) hx
  -- Something stands on both sides of the class, so the slash that it takes is no outer one.
  refine ⟨front ++ '/' :: rear, ⟨?_, ?_⟩, ?_, ?_⟩
  · exact fun hd => hline (hmem hd (by decide) (by decide))
  · rw [slashed_eq_self_iff, List.head?_append_of_ne_nil _ hfront,
      List.getLast?_append_of_ne_nil _ (by simp), List.getLast?_cons_of_ne_nil hrear]
    refine ⟨fun hd => hback (hmem hd (by decide) (by decide)), ?_, ?_⟩
    · rcases hfu with rfl | ⟨-, rfl⟩
      · rwa [List.head?_append_of_ne_nil _ hfront] at hhead
      · decide
    · rcases hrw with rfl | ⟨-, rfl⟩
      · rwa [List.getLast?_append_of_ne_nil _ (by simp), List.getLast?_cons_of_ne_nil hrear]
          at hlast
      · decide
  · exact Glob.covers_append.mpr ⟨front, _, hcfront, ⟨rear, ⟨'/', hc, rfl⟩, hcrear⟩, rfl⟩
  · exact ⟨before, negated, body, behind, front, rear, rfl, hc, hcfront, hcrear, rfl⟩

theorem hasLooseClass_of_takesSlash {path : Text} (hpath : IsTidy path)
    (h : Glob.TakesSlash ps path) : Glob.HasLooseClass ps := by
  obtain ⟨before, negated, body, behind, u, t, rfl, hc, hu, ht, rfl⟩ := h
  obtain ⟨-, hhead, hlast⟩ := slashed_eq_self_iff.mp hpath.2
  refine ⟨before, negated, body, behind, rfl, ?_, ?_, hc⟩
  · rintro rfl
    obtain rfl : u = [] := hu
    exact hhead rfl
  · rintro rfl
    obtain rfl : t = [] := ht
    exact hlast (by simp)

/-- An anchored line without two stars in a row fits no path with fewer slashes than its glob has
outside of its classes. If it fits a path at all, then it fits paths with that many slashes only
exactly if no class between other pieces accepts a slash. -/
theorem count_slashes_iff {line : Text} {number : Option ℤ} {p : IgnorePattern} {l : IgnoreLine}
    (h : ofLine line number = .ok (some p)) (hl : IgnoreLine.ofLine? line = some l)
    (hanchored : l.anchored = true) (hstars : ¬ ['*', '*'] <:+: l.glob) :
    ∃ r, Regex.ofText? p.regex = some r ∧
      (∃ outside classes, Glob.Reads l.glob outside classes []) ∧
      ∀ outside classes, Glob.Reads l.glob outside classes [] →
        (∀ path, '\n' ∉ path → r.Finds path → outside.count '/' ≤ path.count '/') ∧
        ((∀ path, IsTidy path → r.Finds path → path.count '/' = outside.count '/') ↔
          ¬ (Glob.HasLooseClass p.pieces ∧ ∃ path, IsTidy path ∧ r.Finds path)) := by
  obtain ⟨l', ps, hl', hps, rfl⟩ := ofLine_eq_ok_some h
  rw [hl] at hl'
  cases hl'
  obtain ⟨own, hown, hwhole, -⟩ := IgnoreLine.exists_pieces_of_compileGlob hps
  rw [if_pos hanchored] at hwhole
  subst hwhole
  obtain ⟨outside, hreads⟩ := (Glob.isReadAs_pieces? true l.glob).complete ps hown
  have hfinds {path : Text} (hpath : '\n' ∉ path) :
      (Regex.ofGlob ps).Finds path ↔ Glob.Covers ps path :=
    Regex.finds_ofGlob_iff.trans (Glob.fits_iff_covers hpath)
  refine ⟨Regex.ofGlob ps, Regex.ofText?_regex (IgnoreLine.sound_of_compileGlob hps),
    ⟨outside, _, hreads⟩, ?_⟩
  intro outside classes hreads
  obtain ⟨hcount, hcrossing⟩ := Glob.count_of_reads hreads hstars hown
  rw [← hcount]
  constructor
  · intro path hpath hfits
    exact (Glob.count_of_covers hcrossing ((hfinds hpath).mp hfits)).1
  · constructor
    · rintro hall ⟨hloose, path, hpath, hfits⟩
      obtain ⟨longer, hlonger, hcovers, hslash⟩ :=
        exists_tidy_takesSlash hcrossing hloose hpath ((hfinds hpath.1).mp hfits)
      have hmore := Glob.count_lt_of_takesSlash hcrossing hslash
      have hsame := hall longer hlonger ((hfinds hlonger.1).mpr hcovers)
      omega
    · intro hnone path hpath hfits
      rcases (Glob.count_of_covers hcrossing ((hfinds hpath.1).mp hfits)).2 with hsame | hslash
      · exact hsame
      · exact absurd ⟨hasLooseClass_of_takesSlash hpath hslash, path, hpath, hfits⟩ hnone

def docsLine : IgnoreLine where
  raw := "/docs/[a-f]*.m?".toList
  negated := false
  dirOnly := false
  anchored := true
  glob := "docs/[a-f]*.m?".toList

def docsFile : IgnorePattern where
  raw := docsLine.raw
  pieces := [.char 'd', .char 'o', .char 'c', .char 's', .char '/', .oneOf false "a-f".toList, .run,
    .char '.', .char 'm', .one]
  dirOnly := false
  negated := false

theorem not_hasLooseClass_docsFile : ¬ Glob.HasLooseClass docsFile.pieces := by
  rintro ⟨before, negated, body, behind, hps, -, -, hc⟩
  have hmem : Piece.oneOf negated body ∈ docsFile.pieces := by simp [hps]
  have hclass : negated = false ∧ body = "a-f".toList := by simpa [docsFile] using hmem
  rw [hclass.1, hclass.2] at hc
  exact absurd hc (by decide)

theorem count_slashes_iff_docsFile :
    ofLine docsLine.raw (some 3) = .ok (some docsFile) ∧
      IgnoreLine.ofLine? docsLine.raw = some docsLine ∧ docsLine.anchored = true ∧
      ¬ ['*', '*'] <:+: docsLine.glob ∧
      ∃ r, Regex.ofText? docsFile.regex = some r ∧ ∃ outside classes,
        Glob.Reads docsLine.glob outside classes [] ∧
        ∀ path, IsTidy path → r.Finds path → path.count '/' = outside.count '/' := by
  have hfile : ofLine docsLine.raw (some 3) = .ok (some docsFile) := by decide +kernel
  have hline : IgnoreLine.ofLine? docsLine.raw = some docsLine := by decide +kernel
  have hstars : ¬ ['*', '*'] <:+: docsLine.glob := by decide
  obtain ⟨r, hr, ⟨outside, classes, hreads⟩, hall⟩ := count_slashes_iff hfile hline rfl hstars
  refine ⟨hfile, hline, rfl, hstars, r, hr, outside, classes, hreads, ?_⟩
  exact (hall outside classes hreads).2.mpr (fun hloose => not_hasLooseClass_docsFile hloose.1)

def looseLine : IgnoreLine where
  raw := "/a[!b]c".toList
  negated := false
  dirOnly := false
  anchored := true
  glob := "a[!b]c".toList

def looseFile : IgnorePattern where
  raw := looseLine.raw
  pieces := [.char 'a', .oneOf true ['b'], .char 'c']
  dirOnly := false
  negated := false

theorem finds_across_looseFile :
    ofLine looseLine.raw (some 1) = .ok (some looseFile) ∧
      IgnoreLine.ofLine? looseLine.raw = some looseLine ∧ looseLine.anchored = true ∧
      ¬ ['*', '*'] <:+: looseLine.glob ∧
      Glob.Reads looseLine.glob "ac".toList [(true, ['b'])] [] ∧
      ∃ r, Regex.ofText? looseFile.regex = some r ∧
        IsTidy "a/c".toList ∧ r.Finds "a/c".toList ∧
        "a/c".toList.count '/' ≠ "ac".toList.count '/' := by
  have hclass : Glob.Encloses true ['!'] ['b'] := ⟨.inl ⟨rfl, .inl rfl⟩, by simp, by simp⟩
  have hline : IgnoreLine.ofLine? looseLine.raw = some looseLine := by decide +kernel
  have hpieces : compileGlob looseLine = .ok looseFile.pieces := by decide +kernel
  refine ⟨by decide +kernel, hline, rfl, by decide, ?_, Regex.ofGlob looseFile.pieces, ?_,
    by decide, ?_, by decide⟩
  · exact .char (by decide) (by decide) (.oneOf hclass (.char (by decide) (by decide) (.stop [])))
  · exact Regex.ofText?_regex (IgnoreLine.sound_of_compileGlob hpieces)
  · rw [Regex.finds_ofGlob_iff]
    decide

end IgnorePattern

end CommentTags
