import CommentTags.Proofs.Ignore.Refusal
import Mathlib.Algebra.Group.Nat.Even

namespace CommentTags

namespace Glob

def backslashes (s : Text) : ℕ := (s.reverse.takeWhile (· == '\\')).length

theorem backslashes_append_cons {c : Char} (hc : c ≠ '\\') (x s : Text) :
    backslashes (x ++ c :: s) = backslashes s := by
  have hstop : (c :: x.reverse).takeWhile (· == '\\') = [] := by simp [hc]
  rw [backslashes, List.reverse_append, List.reverse_cons, List.append_assoc,
    List.singleton_append, List.takeWhile_append, hstop]
  split
  · rename_i hall
    rw [List.append_nil, backslashes, hall]
  · rfl

theorem even_backslashes_pair {s : Text} :
    Even (backslashes ('\\' :: '\\' :: s)) ↔ Even (backslashes s) := by
  have hsplit : ('\\' :: '\\' :: s).reverse = s.reverse ++ ['\\', '\\'] := by simp
  rw [backslashes, hsplit, List.takeWhile_append]
  split
  · rename_i hall
    rw [backslashes, hall, List.length_append, Nat.even_add]
    exact iff_true_right (by decide)
  · rfl

structure EndsInPairs (s : Text) : Prop where
  last : s = [] ∨ s.getLast? = some '\\'
  even : Even (backslashes s)

theorem EndsInPairs.behind {c : Char} (hc : c ≠ '\\') {x s : Text}
    (h : EndsInPairs (x ++ c :: s)) : EndsInPairs s ∧ s ≠ [] := by
  have hlast : (c :: s).getLast? = some '\\' := by
    have h := h.last.resolve_left (by simp)
    rwa [List.getLast?_append_of_ne_nil _ (by simp)] at h
  have hne : s ≠ [] := by
    rintro rfl
    exact hc (Option.some.inj hlast)
  rw [List.getLast?_cons_of_ne_nil hne] at hlast
  exact ⟨⟨.inr hlast, by simpa only [backslashes_append_cons hc] using h.even⟩, hne⟩

theorem EndsInPairs.cons {c : Char} (hc : c ≠ '\\') {s : Text} (h : EndsInPairs s)
    (hne : s ≠ []) : EndsInPairs (c :: s) := by
  refine ⟨.inr ?_, ?_⟩
  · rw [List.getLast?_cons_of_ne_nil hne]
    exact h.last.resolve_left hne
  · have heven := backslashes_append_cons hc [] s
    rw [List.nil_append] at heven
    rw [heven]
    exact h.even

theorem EndsInPairs.behind_pair {s : Text} (h : EndsInPairs ('\\' :: '\\' :: s)) :
    EndsInPairs s := by
  refine ⟨?_, even_backslashes_pair.mp h.even⟩
  by_cases hne : s = []
  · exact .inl hne
  · have hlast := h.last.resolve_left (by simp)
    rw [List.getLast?_cons_of_ne_nil (by simp), List.getLast?_cons_of_ne_nil hne] at hlast
    exact .inr hlast

theorem map_append_map_cons (p q : Piece) (ps : Option (List Piece)) :
    (ps.map (· ++ [q])).map (p :: ·) = (ps.map (p :: ·)).map (· ++ [q]) := by
  cases ps <;> rfl

theorem neverCloses_append_space {s : Text} (h : NeverCloses s) : NeverCloses (s ++ [' ']) := by
  obtain ⟨mark, first, rest, hmark, hfirst, hrest, rfl⟩ := h
  refine ⟨mark, first, rest ++ [' '], hmark, hfirst, ?_, ?_⟩
  · exact List.not_mem_append hrest (by decide)
  · rw [List.append_assoc, List.append_assoc]

theorem pieces?_append_space {fresh : Bool} {glob : Text} (h : EndsInPairs glob) :
    pieces? fresh (glob ++ [' ']) = (pieces? fresh glob).map (· ++ [.char ' ']) := by
  fun_induction pieces? fresh glob with
  | case1 =>
    rw [List.nil_append, pieces?_char (by decide) (by decide) (by decide) (by decide), pieces?]
    rfl
  | case2 fresh s hr =>
    -- Stars up to the end are no pairs of backslashes.
    obtain ⟨n, hs, -⟩ := exists_stars s
    rw [hr, List.append_nil] at hs
    rw [hs, ← List.replicate_succ, List.replicate_succ'] at h
    exact absurd rfl (h.behind (by decide)).2
  | case3 fresh s c t hr hcross ih =>
    obtain ⟨n, hs, hstar⟩ := exists_stars s
    rw [hr] at hs hstar
    rw [hs, head?_stars_append n hstar] at hcross
    rw [hs, ← List.cons_append, ← List.replicate_succ] at h ⊢
    have hc : c = '/' := by
      rw [Bool.and_eq_true, beq_iff_eq] at hcross
      exact hcross.2
    have ht := (h.behind (hc ▸ by decide)).1
    rw [List.append_assoc, List.cons_append, pieces?_stars_cons n (hc ▸ by decide), if_pos hcross,
      ih ht, map_append_map_cons]
  | case4 fresh s c t hr hcross ih =>
    obtain ⟨n, hs, hstar⟩ := exists_stars s
    rw [hr] at hs hstar
    rw [hs, head?_stars_append n hstar] at hcross
    rw [hs, ← List.cons_append, ← List.replicate_succ, List.replicate_succ', List.append_assoc]
      at h
    have ht := (h.behind (by decide)).1
    rw [hs, ← List.cons_append, ← List.replicate_succ, List.append_assoc, List.cons_append,
      pieces?_stars_cons n (by simpa using hstar), if_neg hcross, ← List.cons_append, ih ht,
      map_append_map_cons]
  | case5 fresh s ih =>
    have hs := (h.behind (x := []) (by decide)).1
    rw [List.cons_append, pieces?, ih hs, map_append_map_cons]
  | case6 fresh s hc =>
    have hopen := classAt?_of_neverCloses (neverCloses_append_space (neverCloses_of_classAt? hc))
    rw [List.cons_append, pieces?]
    split
    · rfl
    · rename_i he
      rw [hopen] at he
      cases he
  | case7 fresh s p rest hc ih =>
    obtain ⟨negated, mark, body, henc, rfl, rfl⟩ := encloses_of_classAt? hc
    have hrest : EndsInPairs rest := by
      have h : EndsInPairs (('[' :: (mark ++ body)) ++ ']' :: rest) := by
        simpa only [List.cons_append, List.append_assoc] using h
      exact (h.behind (by decide)).1
    simp only [List.cons_append, List.append_assoc]
    rw [pieces?_oneOf henc, ih hrest, map_append_map_cons]
  | case8 fresh c s ih =>
    have hs : EndsInPairs s := by
      by_cases hc : c = '\\'
      · exact (hc ▸ h).behind_pair
      · exact (h.behind (x := ['\\']) hc).1
    rw [List.cons_append, List.cons_append, pieces?, ih hs, map_append_map_cons]
  | case9 fresh c s hstar hone hclass hback ih =>
    have hc : c ≠ '\\' := by
      rintro rfl
      cases s with
      | nil => exact absurd h.even (by decide)
      | cons d s => exact (hback d s rfl rfl).elim
    have hs := (h.behind (x := []) hc).1
    rw [List.cons_append, pieces?_char hstar hone hclass (fun he => absurd he hc), ih hs,
      map_append_map_cons]

end Glob

namespace IgnoreLine

theorem dropFreeSpaces_replicate (k : ℕ) {s : Text} (h : s.head? ≠ some ' ') :
    dropFreeSpaces (List.replicate k ' ' ++ s) =
      if k ≠ 0 ∧ s.head? = some '\\' then ' ' :: s else s := by
  have hstop : dropFreeSpaces s = s := by
    cases s with
    | nil => rfl
    | cons c s =>
      rw [dropFreeSpaces]
      · rintro t ⟨⟩
        exact h rfl
      · rintro t ⟨⟩
        exact h rfl
  induction k with
  | zero => simpa using hstop
  | succ k ih =>
    rw [List.replicate_succ, List.cons_append]
    cases k with
    | zero =>
      rw [List.replicate_zero, List.nil_append]
      by_cases hhead : s.head? = some '\\'
      · obtain ⟨t, rfl⟩ := List.head?_eq_some_iff.mp hhead
        rfl
      · rw [if_neg (by simp [hhead]), dropFreeSpaces, hstop]
        rintro t rfl
        exact hhead rfl
    | succ k =>
      rw [dropFreeSpaces, ih]
      · simp
      · rintro t ⟨⟩

variable {b : Text}

theorem strip_append_spaces (hb : ∀ c ∈ b.getLast?, c ≠ ' ' ∧ c ≠ '\r' ∧ c ≠ '\n') (k : ℕ)
    {ending : Text} (hending : ∀ c ∈ ending, c = '\r' ∨ c = '\n') :
    strip (b ++ (List.replicate k ' ' ++ ending)) =
      if k ≠ 0 ∧ b.getLast? = some '\\' then b ++ [' '] else b := by
  have hdrop : (b ++ (List.replicate k ' ' ++ ending)).dropLineEnd = b ++ List.replicate k ' ' := by
    rw [← List.append_assoc, Text.dropLineEnd,
      Text.dropEndWhile_append_of_all (by simpa using hending), Text.dropEndWhile_eq_self_iff]
    cases k with
    | zero => simpa using fun c hc => (hb c hc).2
    | succ k => simp [List.replicate_succ']
  have hhead : b.reverse.head? ≠ some ' ' := by
    rw [List.head?_reverse]
    exact fun he => (hb ' ' he).1 rfl
  rw [strip, hdrop, List.reverse_append, List.reverse_replicate, dropFreeSpaces_replicate k hhead,
    List.head?_reverse]
  split
  · rw [List.reverse_cons, List.reverse_reverse]
  · exact List.reverse_reverse b

theorem strip_eq_self (hb : ∀ c ∈ b.getLast?, c ≠ ' ' ∧ c ≠ '\r' ∧ c ≠ '\n') : strip b = b := by
  have h := strip_append_spaces hb 0 (List.forall_mem_nil _)
  rwa [if_neg (by simp), List.replicate_zero, List.append_nil, List.append_nil] at h

theorem strip_append_space (hlast : b.getLast? = some '\\') :
    strip b = b ∧ strip (b ++ [' ']) = b ++ [' '] := by
  have hb : ∀ c ∈ b.getLast?, c ≠ ' ' ∧ c ≠ '\r' ∧ c ≠ '\n' := by
    rw [hlast]
    rintro c ⟨⟩
    decide
  refine ⟨strip_eq_self hb, ?_⟩
  have h := strip_append_spaces hb 1 (List.forall_mem_nil _)
  rwa [if_pos ⟨Nat.one_ne_zero, hlast⟩, List.append_nil] at h

theorem splitMark_append_space (s : Text) :
    splitMark (s ++ [' ']) = ((splitMark s).1, (splitMark s).2 ++ [' ']) := by
  fun_cases splitMark s with
  | case1 => rfl
  | case2 => rfl
  | case3 => rfl
  | case4 s hbang hkept hhash =>
    have hprefix : ∀ mark : Text, ' ' ∉ mark → mark <+: s ++ [' '] → mark <+: s := by
      intro mark hmark h
      refine (List.prefix_concat_iff.mp h).resolve_left ?_
      rintro rfl
      exact hmark (by simp)
    rw [splitMark]
    · intro t ht
      obtain ⟨u, hu⟩ := hprefix ['!'] (by decide) ⟨t, ht.symm⟩
      exact hbang u hu.symm
    · intro t ht
      obtain ⟨u, hu⟩ := hprefix ['\\', '!'] (by decide) ⟨t, ht.symm⟩
      exact hkept u hu.symm
    · intro t ht
      obtain ⟨u, hu⟩ := hprefix ['\\', '#'] (by decide) ⟨t, ht.symm⟩
      exact hhash u hu.symm

theorem getLast?_splitMark (hlast : b.getLast? = some '\\') :
    (splitMark b).2.getLast? = some '\\' := by
  obtain ⟨mark, hb, hmark⟩ := exists_splitMark_append b
  have hne : (splitMark b).2 ≠ [] := by
    intro he
    rw [he, List.append_nil] at hb
    rcases hmark with ⟨-, rfl⟩ | ⟨-, rfl, ⟨t, ht⟩ | ⟨t, ht⟩⟩ | ⟨-, rfl, -⟩
    · rw [hb] at hlast
      cases hlast
    · rw [hb] at ht
      cases ht
    · rw [hb] at ht
      cases ht
    · rw [hb] at hlast
      cases hlast
  rwa [hb, List.getLast?_append_of_ne_nil _ hne] at hlast

theorem ofLine?_append_space (hlast : b.getLast? = some '\\') {l : IgnoreLine}
    (h : ofLine? b = some l) :
    ofLine? (b ++ [' ']) = some { l with raw := l.raw ++ [' '], glob := l.glob ++ [' '] } := by
  obtain ⟨hstrip, hspace⟩ := strip_append_space hlast
  have htrim : (b ++ [' ']).trim = b.trim := Text.trim_append_of_blank (by decide) b
  have hhead : (b ++ [' ']).head? = b.head? := by
    apply List.head?_append_of_ne_nil
    rintro rfl
    cases hlast
  have hbody := getLast?_splitMark hlast
  rw [ofLine?, hstrip] at h
  rw [ofLine?, hspace, htrim, hhead, splitMark_append_space]
  generalize splitMark b = marked at h hbody ⊢
  obtain ⟨negated, body⟩ := marked
  have hopen : Text.dropEndWhile (· == '/') body = body :=
    Text.dropEndWhile_beq_eq_self (by rw [hbody]; decide)
  have hopen' : Text.dropEndWhile (· == '/') (body ++ [' ']) = body ++ [' '] :=
    Text.dropEndWhile_beq_eq_self (by simp)
  dsimp only at h hbody ⊢
  rw [hopen] at h
  rw [hopen']
  split at h
  · cases h
  · split at h
    · cases h
    · rename_i hraw hglob
      cases h
      rw [if_neg hraw, List.dropWhile_append, if_neg hglob, if_neg (by simp)]
      have hfirst : (body ++ [' ']).head? = body.head? := by
        apply List.head?_append_of_ne_nil
        rintro rfl
        cases hbody
      simp [hbody, hfirst]

theorem endsInPairs_glob (hpairs : Glob.EndsInPairs b) (hlast : b.getLast? = some '\\')
    {l : IgnoreLine} (h : ofLine? b = some l) : Glob.EndsInPairs l.glob := by
  obtain ⟨hraw, mark, front, back, hparts⟩ := exists_parts h
  have hb := hparts.split
  rw [hraw, (strip_append_space hlast).1] at hb
  have hslashes := List.forall_mem_append.mp hparts.slashes
  have hback : back = [] := by
    by_contra hne
    have hslash := (getLast?_append_eq_some_iff hslashes.2 hparts.getLast).mpr hne
    rw [hb, ← List.append_assoc, List.getLast?_append_of_ne_nil _ (by simp [hne]), hslash] at hlast
    cases hlast
  rw [hback, List.append_nil] at hb
  rcases List.eq_nil_or_concat' front with rfl | ⟨first, c, rfl⟩
  · rw [List.nil_append] at hb
    rcases hparts.marked with ⟨-, rfl⟩ | ⟨-, rfl, hkept⟩ | ⟨-, rfl, -⟩
    · rw [hb] at hpairs
      exact (hpairs.behind (x := []) (by decide)).1
    · -- The backslash in front goes with the mark behind it.
      have hglob : ∃ c t, c ≠ '\\' ∧ l.glob = c :: t := by
        rw [hraw, (strip_append_space hlast).1, hb] at hkept
        rcases hkept with ⟨t, ht⟩ | ⟨t, ht⟩
        · exact ⟨'!', t, by decide, (List.cons.inj ht).2.symm⟩
        · exact ⟨'#', t, by decide, (List.cons.inj ht).2.symm⟩
      obtain ⟨c, t, hc, hglob⟩ := hglob
      rw [hb, hglob] at hpairs
      obtain ⟨ht, hne⟩ := hpairs.behind (x := ['\\']) hc
      rw [hglob]
      exact ht.cons hc hne
    · rwa [hb, List.nil_append] at hpairs
  · have hc : c = '/' := hslashes.1 c (by simp)
    have hsplit : b = (mark ++ first) ++ c :: l.glob := by rw [hb]; simp
    rw [hsplit] at hpairs
    exact (hpairs.behind (hc ▸ by decide)).1

theorem isIdle_iff_of_mem {raw : Text} (h : '\\' ∈ raw) : IsIdle raw ↔ raw.head? = some '#' := by
  refine ⟨?_, fun hhash => .inr (.inl hhash)⟩
  rintro (hblank | hhash | ⟨slashes, hslashes, rfl | rfl⟩)
  · exact absurd (hblank _ h) (by decide)
  · exact hhash
  · exact absurd (hslashes _ h) (by decide)
  · exact absurd (hslashes _ ((List.mem_cons.mp h).resolve_left (by decide))) (by decide)

end IgnoreLine

theorem BadRange.first?_append_char (position : ℕ) (ps : List Piece) (c : Char) :
    first? position (ps ++ [.char c]) = first? position ps := by
  induction ps generalizing position with
  | nil => rfl
  | cons p ps ih => simp only [List.cons_append, first?, ih]

namespace IgnorePattern

theorem compileGlob_append_space {l : IgnoreLine} {ps : List Piece}
    (hpairs : Glob.EndsInPairs l.glob) (h : compileGlob l = .ok ps) (raw : Text) :
    compileGlob { l with raw := raw, glob := l.glob ++ [' '] } = .ok (ps ++ [.char ' ']) := by
  obtain ⟨own, hown, hps, hfirst⟩ := IgnoreLine.exists_pieces_of_compileGlob h
  have hwhole : (if l.anchored then own ++ [.char ' '] else .dirs :: (own ++ [.char ' '])) =
      ps ++ [.char ' '] := by
    rw [hps]
    split <;> rfl
  simp only [compileGlob, Glob.pieces?_append_space hpairs, hown, Option.map_some, hwhole,
    BadRange.first?_append_char, hfirst]

variable {line line' : Text} {number : Option ℤ}

theorem ofLine_congr (h : IgnoreLine.strip line = IgnoreLine.strip line') :
    ofLine line number = ofLine line' number := by
  simp only [ofLine, IgnoreLine.ofLine?, h]

def toldRaw : Except IgnoreLineError (Option IgnorePattern) → Option Text
  | .error e => some e.raw
  | .ok p => p.map raw

theorem toldRaw_ofLine (line : Text) (number : Option ℤ) :
    toldRaw (ofLine line number) = (IgnoreLine.ofLine? line).map IgnoreLine.raw := by
  unfold ofLine
  split
  · rename_i h
    rw [h]
    rfl
  · rename_i l h
    rw [h]
    split <;> rfl

theorem ofLine_append_space_eq_iff {b : Text} (hlast : b.getLast? = some '\\') :
    ofLine (b ++ [' ']) number = ofLine b number ↔ b.head? = some '#' := by
  have hmem : '\\' ∈ b := List.mem_of_getLast? hlast
  have hidle : IgnoreLine.ofLine? b = none ↔ b.head? = some '#' := by
    rw [IgnoreLine.ofLine?_eq_none_iff, (IgnoreLine.strip_append_space hlast).1,
      IgnoreLine.isIdle_iff_of_mem hmem]
  constructor
  · intro h
    by_contra hhead
    obtain ⟨l, hl⟩ := Option.ne_none_iff_exists'.mp (fun hnone => hhead (hidle.mp hnone))
    have htold := congrArg toldRaw h
    rw [toldRaw_ofLine, toldRaw_ofLine, hl, IgnoreLine.ofLine?_append_space hlast hl] at htold
    simp at htold
  · intro hhead
    have hcomment : IgnoreLine.ofLine? (b ++ [' ']) = none := by
      rw [IgnoreLine.ofLine?_eq_none_iff, (IgnoreLine.strip_append_space hlast).2]
      exact .inr (.inl (by rw [List.head?_append, hhead]; rfl))
    rw [ofLine_eq_ok_none_iff.mpr hcomment, ofLine_eq_ok_none_iff.mpr (hidle.mpr hhead)]

theorem ofLine_append_space {b : Text} {p : IgnorePattern} (hlast : b.getLast? = some '\\')
    (heven : Even (Glob.backslashes b)) (h : ofLine b number = .ok (some p)) :
    ofLine (b ++ [' ']) number =
      .ok (some { p with raw := p.raw ++ [' '], pieces := p.pieces ++ [.char ' '] }) := by
  obtain ⟨l, ps, hl, hps, rfl⟩ := ofLine_eq_ok_some h
  have hpairs := IgnoreLine.endsInPairs_glob ⟨.inr hlast, heven⟩ hlast hl
  have hspace := compileGlob_append_space hpairs hps (l.raw ++ [' '])
  simp only [ofLine, IgnoreLine.ofLine?_append_space hlast hl, hspace]

/-- Spaces at the end of a line make no difference exactly if no backslash stands before them or
the line is a comment. Otherwise one of them belongs to the line, and behind pairs of backslashes,
which the glob reads as backslashes, the pattern has this space as one more character. -/
theorem ofLine_spaces {b ending : Text} (number : Option ℤ) (k : ℕ)
    (hb : ∀ c ∈ b.getLast?, c ≠ ' ' ∧ c ≠ '\r' ∧ c ≠ '\n')
    (hending : ∀ c ∈ ending, c = '\r' ∨ c = '\n') :
    let line := b ++ (List.replicate k ' ' ++ ending)
    (ofLine line number = ofLine b number ↔
      k = 0 ∨ b.getLast? ≠ some '\\' ∨ b.head? = some '#') ∧
    (k ≠ 0 → b.getLast? = some '\\' →
      ofLine line number = ofLine (b ++ [' ']) number ∧
      ∀ p, Even (Glob.backslashes b) → ofLine b number = .ok (some p) →
        ofLine line number =
          .ok (some { p with raw := p.raw ++ [' '], pieces := p.pieces ++ [.char ' '] })) := by
  intro line
  have hstrip := IgnoreLine.strip_append_spaces hb k hending
  have hspaced : k ≠ 0 → b.getLast? = some '\\' →
      ofLine line number = ofLine (b ++ [' ']) number := by
    intro hk hlast
    refine ofLine_congr ?_
    rw [hstrip, if_pos ⟨hk, hlast⟩, (IgnoreLine.strip_append_space hlast).2]
  refine ⟨?_, fun hk hlast => ⟨hspaced hk hlast, ?_⟩⟩
  · by_cases hfree : k = 0 ∨ b.getLast? ≠ some '\\'
    · refine iff_of_true (ofLine_congr ?_) (or_assoc.mp (.inl hfree))
      rw [hstrip, if_neg (by tauto), IgnoreLine.strip_eq_self hb]
    · rw [← or_assoc, or_iff_right hfree]
      obtain ⟨hk, hlast⟩ := not_or.mp hfree
      rw [hspaced hk (not_not.mp hlast)]
      exact ofLine_append_space_eq_iff (not_not.mp hlast)
  · intro p heven hp
    rw [hspaced hk hlast]
    exact ofLine_append_space hlast heven hp

theorem ofLine_spaces_paired :
    let b := "a\\\\".toList
    (∀ c ∈ b.getLast?, c ≠ ' ' ∧ c ≠ '\r' ∧ c ≠ '\n') ∧ Even (Glob.backslashes b) ∧
      ofLine (b ++ (List.replicate 3 ' ' ++ ['\n'])) none =
        .ok (some ⟨"a\\\\ ".toList, [.dirs, .char 'a', .char '\\', .char ' '], false, false⟩) := by
  intro b
  have hb : ∀ c ∈ b.getLast?, c ≠ ' ' ∧ c ≠ '\r' ∧ c ≠ '\n' := by
    rintro c ⟨⟩
    decide
  have heven : Even (Glob.backslashes b) := by decide
  have hline : ofLine b none =
      .ok (some ⟨b, [.dirs, .char 'a', .char '\\'], false, false⟩) := by decide +kernel
  have hending : ∀ c ∈ ['\n'], c = '\r' ∨ c = '\n' := by decide
  obtain ⟨-, hspaced⟩ := ofLine_spaces none 3 hb hending
  obtain ⟨-, hpairs⟩ := hspaced (by decide) rfl
  exact ⟨hb, heven, hpairs _ heven hline⟩

theorem ofLine_unmarked_space :
    let b := "a\\\\".toList
    b.getLast? ≠ some ' ' ∧ b.getLast? ≠ some '\r' ∧ b.getLast? ≠ some '\n' ∧
      Even (Glob.backslashes b) ∧ ofLine (b ++ [' ']) none ≠ ofLine b none := by
  decide +kernel

end IgnorePattern

end CommentTags
