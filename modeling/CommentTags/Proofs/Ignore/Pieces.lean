import CommentTags.Ignore.Glob
import Mathlib.Data.List.Infix
import Mathlib.Data.List.TakeWhile

namespace CommentTags

namespace Piece

def Takes : Piece → Text → Text → Prop
  | .char c, s, t => s = c :: t
  | .one, s, t => ∃ c, c ≠ '/' ∧ s = c :: t
  | .run, s, t => ∃ name, '/' ∉ name ∧ s = name ++ t
  | .dirs, s, t => s = t ∨ ∃ dirs, s = dirs ++ '/' :: t
  | .all, s, t => t <:+ s
  | .oneOf negated body, s, t => ∃ c, classAccepts negated body c = true ∧ s = c :: t

theorem Takes.suffix {p : Piece} {s t : Text} (h : p.Takes s t) : t <:+ s := by
  cases p with
  | char c =>
    obtain rfl : s = c :: t := h
    exact List.suffix_cons c t
  | one =>
    obtain ⟨c, -, rfl⟩ := h
    exact List.suffix_cons c t
  | run =>
    obtain ⟨name, -, rfl⟩ := h
    exact List.suffix_append name t
  | dirs =>
    rcases h with rfl | ⟨dirs, rfl⟩
    · exact List.suffix_refl s
    · exact (List.suffix_cons '/' t).trans (List.suffix_append dirs _)
  | all => exact h
  | oneOf negated body =>
    obtain ⟨c, -, rfl⟩ := h
    exact List.suffix_cons c t

end Piece

namespace Glob

theorem suffixes_eq_tails (s : Text) : suffixes s = s.tails := by
  induction s with
  | nil => rfl
  | cons c s ih => rw [suffixes, ih, List.tails_cons]

theorem mem_suffixes {s t : Text} : t ∈ suffixes s ↔ t <:+ s := by
  rw [suffixes_eq_tails, List.mem_tails]

theorem mem_afterRun {s t : Text} : t ∈ afterRun s ↔ ∃ name, '/' ∉ name ∧ s = name ++ t := by
  induction s with
  | nil =>
    rw [afterRun, List.mem_singleton]
    constructor
    · rintro rfl
      exact ⟨[], by simp, rfl⟩
    · rintro ⟨name, -, h⟩
      exact (List.append_eq_nil_iff.mp h.symm).2
  | cons c s ih =>
    rw [afterRun, List.mem_cons]
    constructor
    · rintro (rfl | h)
      · exact ⟨[], by simp, rfl⟩
      · split at h
        · cases h
        · rename_i hc
          obtain ⟨name, hname, rfl⟩ := ih.mp h
          exact ⟨c :: name, by simp [hname, Ne.symm hc], rfl⟩
    · rintro ⟨name, hname, h⟩
      rcases List.cons_eq_append_iff.mp h with ⟨-, rfl⟩ | ⟨name', rfl, rfl⟩
      · exact .inl rfl
      · rw [List.mem_cons, not_or] at hname
        right
        rw [if_neg (Ne.symm hname.1)]
        exact ih.mpr ⟨name', hname.2, rfl⟩

theorem mem_afterSlash {s t : Text} : t ∈ afterSlash s ↔ ∃ dirs, s = dirs ++ '/' :: t := by
  induction s with
  | nil => simp [afterSlash]
  | cons c s ih =>
    have hlater : t ∈ afterSlash s ↔ ∃ dirs, c :: s = c :: dirs ++ '/' :: t := by
      rw [ih]
      simp
    rw [afterSlash]
    split
    · rename_i hc
      subst hc
      rw [List.mem_cons, hlater]
      constructor
      · rintro (rfl | ⟨dirs, h⟩)
        · exact ⟨[], rfl⟩
        · exact ⟨'/' :: dirs, h⟩
      · rintro ⟨dirs, h⟩
        rcases List.cons_eq_append_iff.mp h with ⟨-, h'⟩ | ⟨dirs', rfl, -⟩
        · exact .inl (List.cons.inj h').2
        · exact .inr ⟨dirs', h⟩
    · rename_i hc
      rw [hlater]
      constructor
      · rintro ⟨dirs, h⟩
        exact ⟨c :: dirs, h⟩
      · rintro ⟨dirs, h⟩
        rcases List.cons_eq_append_iff.mp h with ⟨-, h'⟩ | ⟨dirs', rfl, -⟩
        · exact absurd (List.cons.inj h').1.symm hc
        · exact ⟨dirs', h⟩

theorem head?_any_and_tail (test : Char → Bool) (next : Text → Bool) (s : Text) :
    (s.head?.any test && next s.tail) = true ↔
      ∃ t, (∃ c, test c = true ∧ s = c :: t) ∧ next t = true := by
  cases s with
  | nil => simp
  | cons c s => simp

theorem fits_cons_iff (p : Piece) (ps : List Piece) (s : Text) :
    fits (p :: ps) s = true ↔ ∃ t, p.Takes s t ∧ fits ps t = true := by
  cases p with
  | char c =>
    cases s with
    | nil => simp [fits, Piece.Takes]
    | cons d s => simp [fits, Piece.Takes]
  | one =>
    rw [fits, head?_any_and_tail]
    simp [Piece.Takes]
  | oneOf negated body =>
    rw [fits, head?_any_and_tail]
    rfl
  | run =>
    rw [fits, List.any_eq_true]
    simp only [mem_afterRun]
    rfl
  | dirs =>
    rw [fits, Bool.or_eq_true, List.any_eq_true]
    simp only [mem_afterSlash, Piece.Takes]
    constructor
    · rintro (h | ⟨t, hs, h⟩)
      · exact ⟨s, .inl rfl, h⟩
      · exact ⟨t, .inr hs, h⟩
    · rintro ⟨t, rfl | hs, h⟩
      · exact .inl h
      · exact .inr ⟨t, hs, h⟩
  | all =>
    rw [fits, List.any_eq_true]
    simp only [mem_suffixes]
    rfl

theorem fits_nil_of_not_mem {s : Text} (h : '\n' ∉ s) : fits [] s = true ↔ s = [] := by
  rw [fits, Bool.or_eq_true, List.isEmpty_iff, beq_iff_eq]
  constructor
  · rintro (rfl | rfl)
    · rfl
    · simp at h
  · exact .inl

/-- What stands between the brackets of a class: a mark if the class is negated, and its body. A
closing bracket right at the start of the body belongs to it. -/
structure Encloses (negated : Bool) (mark body : Text) : Prop where
  marked : negated = true ∧ (mark = ['!'] ∨ mark = ['^']) ∨
    negated = false ∧ mark = [] ∧ ∀ c ∈ body.head?, c ≠ '!' ∧ c ≠ '^'
  ne_nil : body ≠ []
  not_mem : ']' ∉ body.tail

inductive Lists (c : Char) : Text → Prop where
  | between {low high : Char} {rest : Text} (hl : low ≤ c) (hh : c ≤ high) :
      Lists c (low :: '-' :: high :: rest)
  | behindRange {low high : Char} {rest : Text} (h : Lists c rest) :
      Lists c (low :: '-' :: high :: rest)
  | here {rest : Text} (hr : ∀ high t, rest ≠ '-' :: high :: t) : Lists c (c :: rest)
  | behind {d : Char} {rest : Text} (hr : ∀ high t, rest ≠ '-' :: high :: t) (h : Lists c rest) :
      Lists c (d :: rest)

theorem lists_iff (c : Char) (body : Text) :
    Lists c body ↔ (ClassItem.ofBody body).any (ClassItem.holds c) = true := by
  fun_induction ClassItem.ofBody body with
  | case1 low high rest ih =>
    rw [List.any_cons, Bool.or_eq_true, ← ih]
    constructor
    · intro h
      cases h with
      | between hl hh => exact .inl (by simp [ClassItem.holds, hl, hh])
      | behindRange h => exact .inr h
      | here hr => exact absurd rfl (hr high rest)
      | behind hr h => exact absurd rfl (hr high rest)
    · rintro (h | h)
      · simp only [ClassItem.holds, Bool.and_eq_true, decide_eq_true_eq] at h
        exact .between h.1 h.2
      · exact .behindRange h
  | case2 d rest hr ih =>
    have hr : ∀ high t, rest ≠ '-' :: high :: t := fun high t he => hr high t he
    rw [List.any_cons, Bool.or_eq_true, ← ih, ClassItem.holds, beq_iff_eq]
    constructor
    · intro h
      cases h with
      | between hl hh => exact absurd rfl (hr _ _)
      | behindRange h => exact absurd rfl (hr _ _)
      | here hr => exact .inl rfl
      | behind hr h => exact .inr h
    · rintro (rfl | h)
      · exact .here hr
      · exact .behind hr h
  | case3 =>
    constructor
    · intro h
      cases h
    · intro h
      cases h

theorem classAccepts_iff (negated : Bool) (body : Text) (c : Char) :
    classAccepts negated body c = true ↔ (Lists c body ↔ negated = false) := by
  rw [lists_iff, classAccepts]
  cases negated <;> simp

theorem beforeBracket?_eq_some_iff {s body rest : Text} :
    beforeBracket? s = some (body, rest) ↔ ']' ∉ body ∧ s = body ++ ']' :: rest := by
  have hsplit := List.takeWhile_append_dropWhile (p := (· != ']')) (l := s)
  constructor
  · intro h
    unfold beforeBracket? at h
    split at h
    · cases h
    · rename_i c t hd
      cases h
      have hc : c = ']' := by
        have hc := List.head_dropWhile_not (· != ']') (l := s) (by simp [hd])
        simpa [hd] using hc
      rw [hd, hc] at hsplit
      refine ⟨?_, hsplit.symm⟩
      intro hmem
      have hmem := List.mem_takeWhile_imp hmem
      simp at hmem
  · rintro ⟨hbody, rfl⟩
    have hall : ∀ c ∈ body, (c != ']') = true := by
      intro c hc
      simpa using fun he : c = ']' => hbody (he ▸ hc)
    simp [beforeBracket?, List.dropWhile_append_of_pos hall, List.takeWhile_append_of_pos hall]

theorem exists_mark (s : Text) : ∃ mark, s = mark ++ (negation s).2 ∧
    ((negation s).1 = true ∧ (mark = ['!'] ∨ mark = ['^']) ∨
      (negation s).1 = false ∧ mark = [] ∧ ∀ c ∈ (negation s).2.head?, c ≠ '!' ∧ c ≠ '^') := by
  unfold negation
  split
  · exact ⟨['!'], rfl, .inl ⟨rfl, .inl rfl⟩⟩
  · exact ⟨['^'], rfl, .inl ⟨rfl, .inr rfl⟩⟩
  · rename_i hbang hcaret
    refine ⟨[], rfl, .inr ⟨rfl, rfl, ?_⟩⟩
    intro c hc
    obtain ⟨t, rfl⟩ := List.head?_eq_some_iff.mp hc
    constructor
    · rintro rfl
      exact hbang t rfl
    · rintro rfl
      exact hcaret t rfl

theorem negation_append {negated : Bool} {mark body : Text} (h : Encloses negated mark body)
    (rest : Text) : negation (mark ++ (body ++ rest)) = (negated, body ++ rest) := by
  rcases h.marked with ⟨rfl, rfl | rfl⟩ | ⟨rfl, rfl, hhead⟩
  · rfl
  · rfl
  · obtain ⟨c, t, rfl⟩ := List.exists_cons_of_ne_nil h.ne_nil
    have hc := hhead c rfl
    rw [List.nil_append, List.cons_append]
    unfold negation
    split
    · rename_i he
      exact absurd (List.cons.inj he).1 hc.1
    · rename_i he
      exact absurd (List.cons.inj he).1 hc.2
    · rfl

theorem firstBracket_cons (c : Char) (s : Text) :
    firstBracket (c :: s) = if c = ']' then ([']'], s) else ([], c :: s) := by
  unfold firstBracket
  split
  · rename_i t he
    obtain ⟨rfl, rfl⟩ := List.cons.inj he
    rfl
  · rename_i hne
    rw [if_neg]
    rintro rfl
    exact hne s rfl

theorem encloses_of_classAt? {s rest : Text} {p : Piece} (h : classAt? s = some (p, rest)) :
    ∃ negated mark body, Encloses negated mark body ∧ p = .oneOf negated body ∧
      s = mark ++ (body ++ ']' :: rest) := by
  obtain ⟨mark, hs, hmark⟩ := exists_mark s
  obtain ⟨⟨inner, rest'⟩, hinner, he⟩ := Option.map_eq_some_iff.mp h
  obtain ⟨rfl, rfl⟩ := Prod.mk.inj he
  obtain ⟨hnot, hsplit⟩ := beforeBracket?_eq_some_iff.mp hinner
  -- A bracket right behind the mark is part of the body, any other one ends it.
  have hbody : (firstBracket (negation s).2).1 ++ inner ≠ [] ∧
      ']' ∉ ((firstBracket (negation s).2).1 ++ inner).tail ∧
      (negation s).2 = (firstBracket (negation s).2).1 ++ inner ++ ']' :: rest' := by
    cases hm : (negation s).2 with
    | nil => simp [hm, firstBracket] at hsplit
    | cons c t =>
      rw [hm, firstBracket_cons] at hsplit
      rw [firstBracket_cons]
      split at hsplit
      · rename_i hc
        simp only at hsplit
        simp [hc, hsplit, hnot]
      · rename_i hc
        simp only at hsplit
        have hne : inner ≠ [] := by
          rintro rfl
          exact hc (List.cons.inj hsplit).1
        simp only [if_neg hc, List.nil_append]
        exact ⟨hne, fun hmem => hnot (List.mem_of_mem_tail hmem), hsplit⟩
  obtain ⟨hne, hnot', hrest⟩ := hbody
  refine ⟨_, mark, _, ⟨?_, hne, hnot'⟩, rfl, by rw [← hrest]; exact hs⟩
  rcases hmark with hmark | ⟨hneg, rfl, hhead⟩
  · exact .inl hmark
  · refine .inr ⟨hneg, rfl, ?_⟩
    rwa [hrest, List.head?_append_of_ne_nil _ hne] at hhead

theorem classAt?_of_encloses {negated : Bool} {mark body : Text}
    (h : Encloses negated mark body) (rest : Text) :
    classAt? (mark ++ (body ++ ']' :: rest)) = some (.oneOf negated body, rest) := by
  obtain ⟨c, t, rfl⟩ := List.exists_cons_of_ne_nil h.ne_nil
  have ht : ']' ∉ t := h.not_mem
  rw [classAt?, negation_append h, List.cons_append]
  dsimp only
  rw [firstBracket_cons]
  split
  · rename_i hc
    have hb : beforeBracket? (t ++ ']' :: rest) = some (t, rest) :=
      beforeBracket?_eq_some_iff.mpr ⟨ht, rfl⟩
    simp [hb, hc]
  · rename_i hc
    have hct : ']' ∉ c :: t := by simp [ht, Ne.symm hc]
    have hb : beforeBracket? (c :: (t ++ ']' :: rest)) = some (c :: t, rest) :=
      beforeBracket?_eq_some_iff.mpr ⟨hct, rfl⟩
    simp [hb]

theorem encloses_of_mem_pieces {fresh : Bool} {glob : Text} {ps : List Piece}
    (h : pieces? fresh glob = some ps) {negated : Bool} {body : Text}
    (hp : .oneOf negated body ∈ ps) : ∃ mark, Encloses negated mark body := by
  fun_induction pieces? fresh glob generalizing ps with
  | case1 =>
    cases h
    cases hp
  | case2 =>
    cases h
    rw [List.mem_singleton] at hp
    split at hp <;> cases hp
  | case7 fresh s p rest hc ih =>
    obtain ⟨ps, hps, rfl⟩ := Option.map_eq_some_iff.mp h
    rcases List.mem_cons.mp hp with rfl | hp
    · obtain ⟨negated', mark, body', henc, he, -⟩ := encloses_of_classAt? hc
      cases he
      exact ⟨mark, henc⟩
    · exact ih hps hp
  | case6 => cases h
  | case3 | case4 | case5 | case8 | case9 =>
    rename_i ih
    obtain ⟨ps, hps, rfl⟩ := Option.map_eq_some_iff.mp h
    exact ih hps (by simpa using hp)

end Glob

end CommentTags
