import CommentTags.Ignore.Pattern
import CommentTags.Proofs.Path.Below
import CommentTags.Proofs.Text.Split
import CommentTags.Proofs.Text.Trim

namespace CommentTags

namespace IgnorePattern

theorem leadingDirs_cons (name : Text) {names : List Text} (h : names ≠ []) :
    leadingDirs (name :: names) =
      name :: (leadingDirs names).map (fun d => name ++ '/' :: d) := by
  cases names with
  | nil => exact absurd rfl h
  | cons n ns => rfl

theorem mem_leadingDirs_iff {names : List Text} {d : Text} :
    d ∈ leadingDirs names ↔ ∃ k, 1 ≤ k ∧ k < names.length ∧ d = Path.joined (names.take k) := by
  induction names generalizing d with
  | nil =>
    constructor
    · intro h
      cases h
    · rintro ⟨k, -, hk, -⟩
      cases hk
  | cons n ns ih =>
    by_cases hns : ns = []
    · subst hns
      constructor
      · intro h
        cases h
      · rintro ⟨k, hk, hlt, -⟩
        rw [List.length_singleton] at hlt
        omega
    · have htake (k : ℕ) (hk : 1 ≤ k) :
          Path.joined ((n :: ns).take (k + 1)) = n ++ '/' :: Path.joined (ns.take k) := by
        rw [List.take_succ_cons, Path.joined_cons_of_ne_nil]
        rw [Ne, List.take_eq_nil_iff, not_or]
        exact ⟨by omega, hns⟩
      rw [leadingDirs_cons n hns, List.mem_cons, List.mem_map]
      constructor
      · rintro (rfl | ⟨d, hd, rfl⟩)
        · have hpos := List.length_pos_iff.mpr hns
          refine ⟨1, le_refl 1, Nat.succ_lt_succ hpos, ?_⟩
          exact List.intercalate_singleton.symm
        · obtain ⟨k, hk, hlt, rfl⟩ := ih.mp hd
          exact ⟨k + 1, by omega, Nat.succ_lt_succ hlt, (htake k hk).symm⟩
      · rintro ⟨k, hk, hlt, rfl⟩
        by_cases hone : k = 1
        · left
          rw [hone]
          exact List.intercalate_singleton
        · obtain ⟨k, rfl⟩ : ∃ m, k = m + 1 := ⟨k - 1, by omega⟩
          right
          refine ⟨_, ih.mpr ⟨k, by omega, Nat.lt_of_succ_lt_succ hlt, rfl⟩, ?_⟩
          exact (htake k (by omega)).symm

theorem joined_mem_leadingDirs {names more : List Text} (hn : names ≠ []) (hm : more ≠ []) :
    Path.joined names ∈ leadingDirs (names ++ more) := by
  have hn := List.length_pos_iff.mpr hn
  have hm := List.length_pos_iff.mpr hm
  refine mem_leadingDirs_iff.mpr ⟨names.length, hn, ?_, ?_⟩
  · rw [List.length_append]
    omega
  · rw [List.take_left]

theorem leadingDirs_subset_append (names more : List Text) :
    leadingDirs names ⊆ leadingDirs (names ++ more) := by
  intro d hd
  obtain ⟨k, hk, hlt, rfl⟩ := mem_leadingDirs_iff.mp hd
  refine mem_leadingDirs_iff.mpr ⟨k, hk, ?_, ?_⟩
  · rw [List.length_append]
    omega
  · rw [List.take_append_of_le_length (by omega)]

theorem slashed_below {dir rest : Text} (hdir : slashed dir ≠ [])
    (hrest : ∃ c ∈ rest, c ≠ '/' ∧ c ≠ '\\') :
    ∃ t, slashed (dir ++ '/' :: rest) = slashed dir ++ '/' :: t := by
  let turn : Char → Char := fun c => if c = '\\' then '/' else c
  let front := (dir.map turn).dropWhile (· == '/')
  have hfront : front ≠ [] := by
    intro h
    apply hdir
    change Text.dropEndWhile (· == '/') front = []
    rw [h]
    rfl
  have hkept : Text.dropEndWhile (· == '/') (rest.map turn) ≠ [] := by
    obtain ⟨c, hc, hslash, hback⟩ := hrest
    apply Text.dropEndWhile_ne_nil
    refine ⟨turn c, List.mem_map_of_mem hc, ?_⟩
    simp [turn, hback, hslash]
  have hback : Text.dropEndWhile (· == '/') ('/' :: rest.map turn) =
      '/' :: Text.dropEndWhile (· == '/') (rest.map turn) :=
    Text.dropEndWhile_append_of_ne_nil _ ['/'] hkept
  have hwhole : slashed (dir ++ '/' :: rest) =
      front ++ '/' :: Text.dropEndWhile (· == '/') (rest.map turn) := by
    have hdrop : ((dir ++ '/' :: rest).map turn).dropWhile (· == '/') =
        front ++ '/' :: rest.map turn := by
      rw [List.map_append, List.dropWhile_append, if_neg (List.isEmpty_iff.not.mpr hfront)]
      rfl
    change Text.dropEndWhile (· == '/') (((dir ++ '/' :: rest).map turn).dropWhile (· == '/')) = _
    rw [hdrop, Text.dropEndWhile_append_of_ne_nil _ front (by rw [hback]; simp), hback]
  -- The directory alone loses the slashes at its end; the longer path keeps them.
  obtain ⟨slashes, hsplit, hslashes⟩ := Text.exists_dropEndWhile_append (· == '/') front
  have hstart : front = slashed dir ++ slashes := hsplit
  rw [hwhole, hstart, List.append_assoc]
  cases slashes with
  | nil => exact ⟨_, rfl⟩
  | cons c cs =>
    have hc : c = '/' := by simpa using hslashes c List.mem_cons_self
    rw [hc]
    exact ⟨_, rfl⟩

theorem selects_below (p : IgnorePattern) {dir rest : Text} (h : p.selects dir true = true)
    (hrest : ∃ c ∈ rest, c ≠ '/' ∧ c ≠ '\\') (isDir : Bool) :
    p.selects (dir ++ '/' :: rest) isDir = true := by
  simp only [selects, Bool.and_eq_true, Bool.or_eq_true, Bool.true_or, and_true,
    Bool.not_eq_true', List.isEmpty_eq_false_iff, List.any_eq_true] at h
  obtain ⟨hne, h⟩ := h
  obtain ⟨t, ht⟩ := slashed_below hne hrest
  have hlead : ∃ d ∈ leadingDirs (Text.splitOn '/' (slashed dir) ++ Text.splitOn '/' t),
      Glob.fits p.pieces d = true := by
    rcases h with h | ⟨d, hd, h⟩
    · have hmem := joined_mem_leadingDirs (Text.splitOn_ne_nil '/' (slashed dir))
        (Text.splitOn_ne_nil '/' t)
      rw [Path.joined, Text.intercalate_splitOn] at hmem
      exact ⟨slashed dir, hmem, h⟩
    · exact ⟨d, leadingDirs_subset_append _ _ hd, h⟩
  simp only [selects, ht, Text.splitOn_append, Bool.and_eq_true, Bool.or_eq_true,
    Bool.not_eq_true', List.isEmpty_eq_false_iff, List.any_eq_true]
  exact ⟨by simp, .inr hlead⟩

end IgnorePattern

theorem isIgnored_below {patterns : List IgnorePattern} {dir rest : Text}
    (h : isIgnored patterns dir true = true) (hrest : ∃ c ∈ rest, c ≠ '/' ∧ c ≠ '\\')
    (isDir : Bool) : isIgnored patterns (dir ++ '/' :: rest) isDir = true := by
  rw [isIgnored_iff] at h ⊢
  obtain ⟨p, hp, hneg, hsel⟩ := h
  exact ⟨p, hp, hneg, p.selects_below hsel hrest isDir⟩

end CommentTags
