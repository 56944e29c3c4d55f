import CommentTags.Proofs.Ignore.Below
import CommentTags.Proofs.Ignore.Reference
import CommentTags.Proofs.Ignore.Regex

namespace CommentTags

namespace IgnoreLine

/-- A line is its raw text, spaces and its end; a space behind a backslash belongs to the raw
text. -/
structure Strips (line raw spaces ending : Text) : Prop where
  split : line = raw ++ (spaces ++ ending)
  ends : ∀ c ∈ ending, c = '\r' ∨ c = '\n'
  endsWhole : ∀ c ∈ (raw ++ spaces).getLast?, c ≠ '\r' ∧ c ≠ '\n'
  blank : ∀ c ∈ spaces, c = ' '
  blankWhole : raw.getLast? = some ' ' → ['\\', ' '] <:+ raw
  free : spaces ≠ [] → raw.getLast? ≠ some '\\'

/-- The raw text of a line is a mark and a glob between slashes. The mark is an exclamation mark
that negates, or a backslash before an exclamation mark or a hash sign, or nothing. -/
structure Parts (l : IgnoreLine) (mark front back : Text) : Prop where
  split : l.raw = mark ++ (front ++ (l.glob ++ back))
  uncommented : l.raw.head? ≠ some '#'
  marked : l.negated = true ∧ mark = ['!'] ∨
    l.negated = false ∧ mark = ['\\'] ∧ (['\\', '!'] <+: l.raw ∨ ['\\', '#'] <+: l.raw) ∨
    l.negated = false ∧ mark = [] ∧
      ¬ ['!'] <+: l.raw ∧ ¬ ['\\', '!'] <+: l.raw ∧ ¬ ['\\', '#'] <+: l.raw
  slashes : ∀ c ∈ front ++ back, c = '/'
  ne_nil : l.glob ≠ []
  head : l.glob.head? ≠ some '/'
  getLast : l.glob.getLast? ≠ some '/'
  dirOnly_iff : l.dirOnly = true ↔ back ≠ []
  anchored_iff : l.anchored = true ↔ front ≠ [] ∨ '/' ∈ l.glob

theorem exists_dropFreeSpaces_append (s : Text) :
    ∃ spaces, s = spaces ++ dropFreeSpaces s ∧ (∀ c ∈ spaces, c = ' ') ∧
      ((dropFreeSpaces s).head? = some ' ' → [' ', '\\'] <+: dropFreeSpaces s) ∧
      (spaces ≠ [] → (dropFreeSpaces s).head? ≠ some '\\') := by
  fun_induction dropFreeSpaces s with
  | case1 s => exact ⟨[], rfl, by simp, fun _ => ⟨s, rfl⟩, fun h => absurd rfl h⟩
  | case2 s hback ih =>
    obtain ⟨spaces, hs, hall, hmax, hfree⟩ := ih
    refine ⟨' ' :: spaces, congrArg (' ' :: ·) hs, by simpa using hall, hmax, ?_⟩
    intro _ hhead
    by_cases hne : spaces = []
    · rw [hne, List.nil_append] at hs
      rw [← hs] at hhead
      obtain ⟨t, ht⟩ := List.head?_eq_some_iff.mp hhead
      exact hback t ht
    · exact hfree hne hhead
  | case3 s hstart hspace =>
    refine ⟨[], rfl, by simp, ?_, fun h => absurd rfl h⟩
    intro hhead
    obtain ⟨t, ht⟩ := List.head?_eq_some_iff.mp hhead
    exact (hspace t ht).elim

theorem exists_strips (line : Text) : ∃ spaces ending, Strips line (strip line) spaces ending := by
  obtain ⟨ending, hline, hending⟩ :=
    Text.exists_dropEndWhile_append (fun c => c == '\r' || c == '\n') line
  obtain ⟨spaces, hs, hall, hmax, hfree⟩ :=
    exists_dropFreeSpaces_append line.dropLineEnd.reverse
  have hstrip : line.dropLineEnd = strip line ++ spaces.reverse := by
    rw [strip, ← List.reverse_append, ← hs, List.reverse_reverse]
  refine ⟨spaces.reverse, ending, ?_, ?_, ?_, ?_, ?_, ?_⟩
  · rw [← List.append_assoc, ← hstrip]
    exact hline
  · intro c hc
    simpa using hending c hc
  · intro c hc
    rw [← hstrip] at hc
    simpa using Text.getLast?_dropEndWhile _ line c hc
  · intro c hc
    exact hall c (List.mem_reverse.mp hc)
  · intro hlast
    rw [strip, List.getLast?_reverse] at hlast
    exact List.reverse_suffix.mpr (hmax hlast)
  · intro hne
    rw [strip, List.getLast?_reverse]
    exact hfree (by simpa using hne)

theorem exists_splitMark_append (s : Text) :
    ∃ mark, s = mark ++ (splitMark s).2 ∧
      ((splitMark s).1 = true ∧ mark = ['!'] ∨
        (splitMark s).1 = false ∧ mark = ['\\'] ∧ (['\\', '!'] <+: s ∨ ['\\', '#'] <+: s) ∨
        (splitMark s).1 = false ∧ mark = [] ∧
          ¬ ['!'] <+: s ∧ ¬ ['\\', '!'] <+: s ∧ ¬ ['\\', '#'] <+: s) := by
  unfold splitMark
  split
  · exact ⟨['!'], rfl, .inl ⟨rfl, rfl⟩⟩
  · rename_i t
    exact ⟨['\\'], rfl, .inr (.inl ⟨rfl, rfl, .inl ⟨t, rfl⟩⟩)⟩
  · rename_i t
    exact ⟨['\\'], rfl, .inr (.inl ⟨rfl, rfl, .inr ⟨t, rfl⟩⟩)⟩
  · rename_i hbang hkept hhash
    refine ⟨[], rfl, .inr (.inr ⟨rfl, rfl, ?_, ?_, ?_⟩)⟩
    · rintro ⟨t, ht⟩
      exact hbang t ht.symm
    · rintro ⟨t, ht⟩
      exact hkept t ht.symm
    · rintro ⟨t, ht⟩
      exact hhash t ht.symm

theorem head?_append_eq_some_iff {front s : Text} {d : Char} (h : ∀ c ∈ front, c = d)
    (hs : s.head? ≠ some d) : (front ++ s).head? = some d ↔ front ≠ [] := by
  cases front with
  | nil => simpa using hs
  | cons c front => simp [h c List.mem_cons_self]

theorem getLast?_append_eq_some_iff {s back : Text} {d : Char} (h : ∀ c ∈ back, c = d)
    (hs : s.getLast? ≠ some d) : (s ++ back).getLast? = some d ↔ back ≠ [] := by
  rw [← List.head?_reverse] at hs ⊢
  rw [List.reverse_append, head?_append_eq_some_iff _ hs, Ne, List.reverse_eq_nil_iff]
  intro c hc
  exact h c (List.mem_reverse.mp hc)

theorem exists_outer_slashes (body : Text) :
    ∃ front back, (∀ c ∈ front, c = '/') ∧ (∀ c ∈ back, c = '/') ∧
      Text.dropEndWhile (· == '/') body =
        front ++ (Text.dropEndWhile (· == '/') body).dropWhile (· == '/') ∧
      body = Text.dropEndWhile (· == '/') body ++ back := by
  obtain ⟨back, hbody, hback⟩ := Text.exists_dropEndWhile_append (· == '/') body
  refine ⟨(Text.dropEndWhile (· == '/') body).takeWhile (· == '/'), back, ?_, ?_, ?_, hbody⟩
  · intro c hc
    simpa using List.mem_takeWhile_imp hc
  · intro c hc
    simpa using hback c hc
  · exact List.takeWhile_append_dropWhile.symm

theorem exists_parts {line : Text} {l : IgnoreLine} (h : ofLine? line = some l) :
    l.raw = strip line ∧ ∃ mark front back, Parts l mark front back := by
  unfold ofLine? at h
  dsimp only at h
  split at h
  · cases h
  rename_i hraw
  split at h
  · cases h
  rename_i hglob
  cases h
  rw [Bool.or_eq_true, not_or, beq_iff_eq] at hraw
  rw [List.isEmpty_iff] at hglob
  obtain ⟨mark, hmark, hmarked⟩ := exists_splitMark_append (strip line)
  obtain ⟨front, back, hfront, hback, hopen, hbody⟩ :=
    exists_outer_slashes (splitMark (strip line)).2
  have hhead := List.head?_dropWhile_not (· == '/')
    (Text.dropEndWhile (· == '/') (splitMark (strip line)).2)
  have hlast := Text.getLast?_dropEndWhile (· == '/') (splitMark (strip line)).2
  generalize (splitMark (strip line)).2 = body at *
  generalize Text.dropEndWhile (· == '/') body = rest at *
  generalize rest.dropWhile (· == '/') = glob at *
  subst hbody hopen
  have hhead : glob.head? ≠ some '/' := by
    intro he
    simp [he] at hhead
  have hlast : (front ++ glob).getLast? ≠ some '/' := by
    intro he
    simpa using hlast '/' he
  refine ⟨rfl, mark, front, back, ?_, hraw.2, hmarked, ?_, hglob, hhead, ?_, ?_, ?_⟩
  · rw [List.append_assoc] at hmark
    exact hmark
  · exact List.forall_mem_append.mpr ⟨hfront, hback⟩
  · rwa [List.getLast?_append_of_ne_nil _ hglob] at hlast
  · rw [beq_iff_eq]
    exact getLast?_append_eq_some_iff hback hlast
  · rw [Bool.or_eq_true, beq_iff_eq, decide_eq_true_eq, head?_append_eq_some_iff hfront hhead]

def Fits (l : IgnoreLine) (path : Text) : Prop :=
  ∃ dirs rest, path = dirs ++ rest ∧
    (dirs = [] ∨ l.anchored = false ∧ dirs.getLast? = some '/') ∧ Glob.Matches true l.glob rest

def Selects (l : IgnoreLine) (path : Text) (isDir : Bool) : Prop :=
  path ≠ [] ∧
    ((∃ k, 1 ≤ k ∧ k < (Text.splitOn '/' path).length ∧
        l.Fits (Path.joined ((Text.splitOn '/' path).take k))) ∨
      (isDir = true ∨ l.dirOnly = false) ∧ l.Fits path)

variable {l : IgnoreLine} {ps : List Piece}

theorem exists_pieces_of_compileGlob (h : IgnorePattern.compileGlob l = .ok ps) :
    ∃ own, Glob.pieces? true l.glob = some own ∧
      ps = (if l.anchored then own else .dirs :: own) ∧ BadRange.first? 1 ps = none := by
  unfold IgnorePattern.compileGlob at h
  split at h
  · cases h
  · rename_i own hown
    dsimp only at h
    split at h
    · cases h
    · rename_i hfirst
      cases h
      exact ⟨own, hown, rfl, hfirst⟩

theorem sound_of_compileGlob (h : IgnorePattern.compileGlob l = .ok ps) :
    ∀ p ∈ ps, Regex.Sound p := by
  obtain ⟨own, hown, hps, hfirst⟩ := exists_pieces_of_compileGlob h
  rintro p hp negated body rfl
  refine ⟨?_, Regex.exists_inClass?_of_mem hfirst hp⟩
  apply Glob.encloses_of_mem_pieces hown
  rw [hps] at hp
  split at hp
  · exact hp
  · simpa using hp

theorem fits_iff (h : IgnorePattern.compileGlob l = .ok ps) {path : Text} (hpath : '\n' ∉ path) :
    Glob.fits ps path = true ↔ l.Fits path := by
  obtain ⟨own, hown, rfl, -⟩ := exists_pieces_of_compileGlob h
  constructor
  · intro hfits
    by_cases hanchored : l.anchored = true
    · rw [if_pos hanchored] at hfits
      exact ⟨[], path, rfl, .inl rfl, (Glob.fits_iff_matches hown hpath).mp hfits⟩
    · rw [if_neg hanchored, Glob.fits_cons_iff] at hfits
      obtain ⟨rest, rfl | ⟨dirs, rfl⟩, hfits⟩ := hfits
      · exact ⟨[], path, rfl, .inl rfl, (Glob.fits_iff_matches hown hpath).mp hfits⟩
      · have hrest : '\n' ∉ rest := fun hmem => hpath (by simp [hmem])
        refine ⟨dirs ++ ['/'], rest, by simp, .inr ⟨by simpa using hanchored, by simp⟩, ?_⟩
        exact (Glob.fits_iff_matches hown hrest).mp hfits
  · rintro ⟨dirs, rest, rfl, hdirs, hmatches⟩
    have hrest : '\n' ∉ rest := fun hmem => hpath (List.mem_append_right dirs hmem)
    have hfits := (Glob.fits_iff_matches hown hrest).mpr hmatches
    rcases hdirs with rfl | ⟨hanchored, hlast⟩
    · split
      · exact hfits
      · exact (Glob.fits_cons_iff _ _ _).mpr ⟨rest, .inl rfl, hfits⟩
    · obtain ⟨dirs, rfl⟩ := List.getLast?_eq_some_iff.mp hlast
      rw [hanchored, if_neg Bool.false_ne_true, Glob.fits_cons_iff]
      exact ⟨rest, .inr ⟨dirs, by simp⟩, hfits⟩

end IgnoreLine

namespace IgnorePattern

theorem mem_slashed {c : Char} {path : Text} (h : c ∈ slashed path) : c = '/' ∨ c ∈ path := by
  have hdrop := Text.dropEndWhile_subset _ _ h
  obtain ⟨d, hd, rfl⟩ := List.mem_map.mp ((List.dropWhile_sublist _).subset hdrop)
  split
  · exact .inl rfl
  · exact .inr hd

theorem ofLine_eq_ok_some {line : Text} {number : Option ℤ} {p : IgnorePattern}
    (h : ofLine line number = .ok (some p)) :
    ∃ l ps, IgnoreLine.ofLine? line = some l ∧ compileGlob l = .ok ps ∧
      p = ⟨l.raw, ps, l.dirOnly, l.negated⟩ := by
  unfold ofLine at h
  split at h
  · cases h
  · rename_i l hl
    split at h
    · cases h
    · rename_i ps hps
      cases h
      exact ⟨l, ps, hl, hps, rfl⟩

theorem selects_iff {l : IgnoreLine} {ps : List Piece} (h : compileGlob l = .ok ps) {path : Text}
    (hpath : '\n' ∉ path) (isDir : Bool) :
    selects ⟨l.raw, ps, l.dirOnly, l.negated⟩ path isDir = true ↔
      l.Selects (slashed path) isDir := by
  have hslashed : '\n' ∉ slashed path := by
    intro hmem
    rcases mem_slashed hmem with he | hmem
    · cases he
    · exact hpath hmem
  have hlead (k : ℕ) : '\n' ∉ Path.joined ((Text.splitOn '/' (slashed path)).take k) := by
    intro hmem
    apply hslashed
    have hwhole := Path.joined_subset_append _ ((Text.splitOn '/' (slashed path)).drop k) hmem
    rwa [List.take_append_drop, Path.joined, Text.intercalate_splitOn] at hwhole
  simp only [selects, IgnoreLine.Selects, Bool.and_eq_true, Bool.or_eq_true, Bool.not_eq_true',
    List.isEmpty_eq_false_iff, List.any_eq_true, IgnoreLine.fits_iff h hslashed]
  apply and_congr_right
  intro _
  constructor
  · rintro (⟨hfits, hdir⟩ | ⟨d, hd, hfits⟩)
    · exact .inr ⟨hdir, hfits⟩
    · obtain ⟨k, hk, hlt, rfl⟩ := mem_leadingDirs_iff.mp hd
      exact .inl ⟨k, hk, hlt, (IgnoreLine.fits_iff h (hlead k)).mp hfits⟩
  · rintro (⟨k, hk, hlt, hfits⟩ | ⟨hdir, hfits⟩)
    · right
      refine ⟨_, mem_leadingDirs_iff.mpr ⟨k, hk, hlt, rfl⟩, ?_⟩
      exact (IgnoreLine.fits_iff h (hlead k)).mpr hfits
    · exact .inl ⟨hfits, hdir⟩

/-- The pattern of a line keeps its raw text and its marks. The regular expression of the pattern
finds what its pieces fit, and the pattern selects the paths without line feeds that the line
selects by the rules for globs. -/
theorem selects_of_ofLine {line : Text} {number : Option ℤ} {p : IgnorePattern}
    (h : ofLine line number = .ok (some p)) :
    ∃ (l : IgnoreLine) (spaces ending mark front back : Text),
      IgnoreLine.Strips line l.raw spaces ending ∧ l.Parts mark front back ∧
      p.raw = l.raw ∧ p.negated = l.negated ∧ p.dirOnly = l.dirOnly ∧
      (∃ r, Regex.ofText? p.regex = some r ∧ ∀ s, r.Finds s ↔ Glob.fits p.pieces s = true) ∧
      ∀ path, '\n' ∉ path → ∀ isDir,
        (p.selects path isDir = true ↔ l.Selects (slashed path) isDir) := by
  obtain ⟨l, ps, hl, hps, rfl⟩ := ofLine_eq_ok_some h
  obtain ⟨hraw, mark, front, back, hparts⟩ := IgnoreLine.exists_parts hl
  obtain ⟨spaces, ending, hstrips⟩ := IgnoreLine.exists_strips line
  rw [← hraw] at hstrips
  refine ⟨l, spaces, ending, mark, front, back, hstrips, hparts, rfl, rfl, rfl, ?_, ?_⟩
  · have hsound := IgnoreLine.sound_of_compileGlob hps
    exact ⟨_, Regex.ofText?_regex hsound, fun s => Regex.finds_ofGlob_iff⟩
  · intro path hpath isDir
    exact selects_iff hps hpath isDir

def docsPattern : IgnorePattern where
  raw := "/docs/**/[!_]*.m?/".toList
  pieces := [.char 'd', .char 'o', .char 'c', .char 's', .char '/', .dirs, .oneOf true ['_'], .run,
    .char '.', .char 'm', .one]
  dirOnly := true
  negated := false

theorem ofLine_docsPattern :
    ofLine "/docs/**/[!_]*.m?/ \r\n".toList (some 3) = .ok (some docsPattern) := by
  decide +kernel

theorem selects_of_ofLine_docs :
    let path := "docs\\a\\intro.md\\".toList
    ofLine "/docs/**/[!_]*.m?/ \r\n".toList (some 3) = .ok (some docsPattern) ∧ '\n' ∉ path ∧
      (∃ r, Regex.ofText? docsPattern.regex = some r ∧ r.Finds "docs/a/intro.md".toList) ∧
      ∃ l : IgnoreLine, docsPattern.raw = l.raw ∧ l.Selects (slashed path) true := by
  intro path
  have hpath : '\n' ∉ path := by decide
  obtain ⟨l, _, _, _, _, _, -, -, hraw, -, -, ⟨r, hr, hfinds⟩, hselects⟩ :=
    selects_of_ofLine ofLine_docsPattern
  refine ⟨ofLine_docsPattern, hpath, ⟨r, hr, ?_⟩, l, hraw, ?_⟩
  · apply (hfinds _).mpr
    decide
  · apply (hselects path hpath true).mp
    decide

end IgnorePattern

end CommentTags
