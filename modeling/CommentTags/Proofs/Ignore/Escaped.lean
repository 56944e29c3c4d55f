import CommentTags.Proofs.Ignore.Refusal

namespace CommentTags

namespace Glob

def escaped (name : Text) : Text := name.flatMap (fun c => ['\\', c])

theorem escaped_cons (c : Char) (name : Text) : escaped (c :: name) = '\\' :: c :: escaped name :=
  rfl

theorem mem_escaped {c : Char} {name : Text} (h : c ∈ escaped name) : c = '\\' ∨ c ∈ name := by
  obtain ⟨d, hd, hc⟩ := List.mem_flatMap.mp h
  rcases List.mem_cons.mp hc with rfl | hc
  · exact .inl rfl
  · exact .inr (List.mem_singleton.mp hc ▸ hd)

theorem pieces?_escaped (name : Text) (hname : '/' ∉ name) (fresh : Bool) :
    pieces? fresh (escaped name) = some (name.map .char) := by
  induction name generalizing fresh with
  | nil => rw [escaped, List.flatMap_nil, pieces?]; rfl
  | cons c name ih =>
    rw [List.mem_cons, not_or] at hname
    rw [escaped_cons, pieces?, ih hname.2]
    rfl

theorem fits_chars_iff {name s : Text} :
    fits (name.map .char) s = true ↔ s = name ∨ s = name ++ ['\n'] := by
  induction name generalizing s with
  | nil => simp [fits]
  | cons c name ih =>
    rw [List.map_cons, fits_cons_iff]
    simp only [ih]
    constructor
    · rintro ⟨t, rfl, rfl | rfl⟩
      · exact .inl rfl
      · exact .inr rfl
    · rintro (rfl | rfl)
      · exact ⟨name, rfl, .inl rfl⟩
      · exact ⟨name ++ ['\n'], rfl, .inr rfl⟩

end Glob

namespace IgnoreLine

theorem strip_escaped {name : Text} (h : ∀ c ∈ name, c ≠ '\r' ∧ c ≠ '\n') :
    strip (Glob.escaped name) = Glob.escaped name := by
  induction name using List.reverseRecOn with
  | nil => rfl
  | append_singleton name c _ =>
    have hc := h c (by simp)
    have hsplit : Glob.escaped (name ++ [c]) = Glob.escaped name ++ ['\\', c] := by
      simp [Glob.escaped]
    have hend : (Glob.escaped (name ++ [c])).dropLineEnd = Glob.escaped (name ++ [c]) := by
      rw [Text.dropLineEnd, Text.dropEndWhile_eq_self_iff, hsplit]
      simp [hc.1, hc.2]
    have hfree : dropFreeSpaces (c :: '\\' :: (Glob.escaped name).reverse) =
        c :: '\\' :: (Glob.escaped name).reverse := by
      by_cases hspace : c = ' '
      · rw [hspace, dropFreeSpaces]
      · rw [dropFreeSpaces]
        · rintro t he
          exact hspace (List.cons.inj he).1
        · rintro t he
          exact hspace (List.cons.inj he).1
    rw [strip, hend, hsplit, List.reverse_append]
    change (dropFreeSpaces (c :: '\\' :: (Glob.escaped name).reverse)).reverse = _
    rw [hfree]
    simp

theorem splitMark_escaped (c : Char) (name : Text) :
    ∃ body, splitMark (Glob.escaped (c :: name)) = (false, body) ∧
      (body = Glob.escaped (c :: name) ∨
        (c = '!' ∨ c = '#') ∧ body = c :: Glob.escaped name) := by
  rw [Glob.escaped_cons]
  by_cases hbang : c = '!'
  · subst hbang
    exact ⟨_, rfl, .inr ⟨.inl rfl, rfl⟩⟩
  · by_cases hhash : c = '#'
    · subst hhash
      exact ⟨_, rfl, .inr ⟨.inr rfl, rfl⟩⟩
    · refine ⟨_, ?_, .inl rfl⟩
      rw [splitMark]
      · simp
      · intro t he
        exact hbang (List.cons.inj (List.cons.inj he).2).1
      · intro t he
        exact hhash (List.cons.inj (List.cons.inj he).2).1

theorem ofLine?_of_not_mem {raw body : Text} {negated : Bool} (hstrip : strip raw = raw)
    (hsolid : raw.trim ≠ []) (hcomment : raw.head? ≠ some '#')
    (hmark : splitMark raw = (negated, body)) (hslash : '/' ∉ body) (hbody : body ≠ []) :
    ofLine? raw = some ⟨raw, negated, false, false, body⟩ := by
  have hlast : body.getLast? ≠ some '/' := fun he => hslash (List.mem_of_getLast? he)
  have hhead : body.head? ≠ some '/' := fun he => hslash (List.mem_of_head? he)
  rw [ofLine?, hstrip]
  dsimp only
  rw [hmark, if_neg (by simpa using ⟨hsolid, hcomment⟩)]
  dsimp only
  rw [Text.dropEndWhile_beq_eq_self hlast, Text.dropWhile_beq_eq_self hhead,
    if_neg (by simpa using hbody)]
  simp [hlast, hhead, hslash]

theorem ofLine?_escaped {name : Text} (hne : name ≠ [])
    (hname : ∀ c ∈ name, c ≠ '/' ∧ c ≠ '\r' ∧ c ≠ '\n') :
    ∃ body, ofLine? (Glob.escaped name) = some ⟨Glob.escaped name, false, false, false, body⟩ ∧
      Glob.pieces? true body = some (name.map .char) := by
  obtain ⟨c, rest, rfl⟩ := List.exists_cons_of_ne_nil hne
  have hslash : '/' ∉ c :: rest := fun hmem => (hname _ hmem).1 rfl
  have hwhole : '/' ∉ Glob.escaped (c :: rest) := by
    intro hmem
    rcases Glob.mem_escaped hmem with he | hmem
    · cases he
    · exact hslash hmem
  obtain ⟨body, hmark, hbody⟩ := splitMark_escaped c rest
  have hplain : '/' ∉ body ∧ body ≠ [] ∧ Glob.pieces? true body = some ((c :: rest).map .char) := by
    rcases hbody with rfl | ⟨hc, rfl⟩
    · exact ⟨hwhole, List.cons_ne_nil _ _, Glob.pieces?_escaped _ hslash true⟩
    · have hother : c ≠ '*' ∧ c ≠ '?' ∧ c ≠ '[' ∧ c ≠ '\\' := by
        rcases hc with rfl | rfl <;> decide
      obtain ⟨hstar, hone, hclass, hback⟩ := hother
      refine ⟨fun hmem => hwhole (List.mem_cons_of_mem _ hmem), List.cons_ne_nil _ _, ?_⟩
      rw [Glob.pieces?_char hstar hone hclass (fun he => absurd he hback),
        Glob.pieces?_escaped rest (fun hmem => hslash (List.mem_cons_of_mem c hmem))]
      rfl
  obtain ⟨hbody, hempty, hpieces⟩ := hplain
  have hsolid : (Glob.escaped (c :: rest)).trim ≠ [] := by
    rw [Ne, Text.trim_eq_nil_iff]
    intro hblank
    exact absurd (hblank '\\' List.mem_cons_self) (by decide)
  have hstrip := strip_escaped (fun d hd => (hname d hd).2)
  exact ⟨body, ofLine?_of_not_mem hstrip hsolid (by simp [Glob.escaped_cons]) hmark hbody hempty,
    hpieces⟩

end IgnoreLine

namespace IgnorePattern

theorem getLast?_splitOn_iff {s t : Text} (h : '/' ∉ t) :
    (Text.splitOn '/' s).getLast? = some t ↔ s = t ∨ ∃ dirs, s = dirs ++ '/' :: t := by
  constructor
  · intro hlast
    obtain ⟨front, hfront⟩ := List.getLast?_eq_some_iff.mp hlast
    have hs : Path.joined (front ++ [t]) = s := by
      rw [← hfront]
      exact Text.intercalate_splitOn '/' s
    by_cases hempty : front = []
    · left
      rw [← hs, hempty]
      exact List.intercalate_singleton
    · right
      rw [← hs, Path.joined_append hempty (List.cons_ne_nil t [])]
      exact ⟨Path.joined front, congrArg _ (congrArg _ List.intercalate_singleton)⟩
  · rintro (rfl | ⟨dirs, rfl⟩)
    · rw [Text.splitOn_of_not_mem h]
      rfl
    · rw [Text.splitOn_append, Text.splitOn_of_not_mem h]
      simp

theorem fits_name_iff {name s : Text} (h : '/' ∉ name) :
    Glob.fits (.dirs :: name.map .char) s = true ↔
      ∃ part, (part = name ∨ part = name ++ ['\n']) ∧
        (Text.splitOn '/' s).getLast? = some part := by
  rw [Glob.fits_cons_iff]
  apply exists_congr
  intro part
  rw [Glob.fits_chars_iff, and_comm]
  apply and_congr_right
  intro hpart
  have hslash : '/' ∉ part := by
    rcases hpart with rfl | rfl
    · exact h
    · simpa using h
  exact (getLast?_splitOn_iff hslash).symm

theorem splitOn_joined_take {path : Text} {k : ℕ} (hk : 1 ≤ k) :
    Text.splitOn '/' (Path.joined ((Text.splitOn '/' path).take k)) =
      (Text.splitOn '/' path).take k := by
  apply Text.splitOn_intercalate
  · rw [Ne, List.take_eq_nil_iff, not_or]
    exact ⟨by omega, Text.splitOn_ne_nil '/' path⟩
  · intro w hw
    exact Text.not_mem_of_mem_splitOn (List.mem_of_mem_take hw)

theorem selects_name_iff {name raw path : Text} (hne : name ≠ []) (h : '/' ∉ name) (isDir : Bool) :
    selects ⟨raw, .dirs :: name.map .char, false, false⟩ path isDir = true ↔
      ∃ part ∈ Text.splitOn '/' (slashed path), part = name ∨ part = name ++ ['\n'] := by
  simp only [selects, Bool.and_eq_true, Bool.or_eq_true, Bool.not_eq_true', Bool.not_false,
    or_true, and_true, List.isEmpty_eq_false_iff, List.any_eq_true, fits_name_iff h]
  generalize slashed path = path
  constructor
  · rintro ⟨-, ⟨part, hpart, hlast⟩ | ⟨d, hd, part, hpart, hlast⟩⟩
    · exact ⟨part, List.mem_of_getLast? hlast, hpart⟩
    · obtain ⟨k, hk, -, rfl⟩ := mem_leadingDirs_iff.mp hd
      rw [splitOn_joined_take hk] at hlast
      exact ⟨part, List.mem_of_mem_take (List.mem_of_getLast? hlast), hpart⟩
  · rintro ⟨part, hmem, hpart⟩
    have hpath : path ≠ [] := by
      rintro rfl
      obtain rfl := List.mem_singleton.mp hmem
      rcases hpart with he | he
      · exact hne he.symm
      · simp at he
    refine ⟨hpath, ?_⟩
    obtain ⟨front, rear, hsplit⟩ := List.append_of_mem hmem
    -- The path up to the part is the path itself, or a directory that leads to it.
    by_cases hrear : rear = []
    · left
      exact ⟨part, hpart, by simp [hsplit, hrear]⟩
    · right
      have htake : (Text.splitOn '/' path).take (front.length + 1) = front ++ [part] := by
        simp [hsplit, List.take_append]
      have hlen := List.length_pos_iff.mpr hrear
      refine ⟨Path.joined (front ++ [part]), ?_, part, hpart, ?_⟩
      · refine mem_leadingDirs_iff.mpr ⟨front.length + 1, by omega, ?_, by rw [htake]⟩
        rw [hsplit, List.length_append, List.length_cons]
        omega
      · rw [← htake, splitOn_joined_take (by omega), htake]
        simp

/-- A backslash before each character of a name gives a pattern that selects the paths with that
name among their components, or with the name and a line feed behind it. -/
theorem selects_of_escaped {name : Text} (hne : name ≠ [])
    (hname : ∀ c ∈ name, c ≠ '/' ∧ c ≠ '\r' ∧ c ≠ '\n') (number : Option ℤ) :
    ∃ p, ofLine (Glob.escaped name) number = .ok (some p) ∧ p.negated = false ∧
      p.dirOnly = false ∧ ∀ path isDir, p.selects path isDir = true ↔
        ∃ part ∈ Text.splitOn '/' (slashed path), part = name ∨ part = name ++ ['\n'] := by
  obtain ⟨body, hline, hpieces⟩ := IgnoreLine.ofLine?_escaped hne hname
  have hslash : '/' ∉ name := fun hmem => (hname _ hmem).1 rfl
  let l : IgnoreLine := ⟨Glob.escaped name, false, false, false, body⟩
  have hps : l.pieces? = some (.dirs :: name.map .char) := by
    simp [l, IgnoreLine.pieces?, hpieces]
  have hup : ¬ Glob.RunsDown l.glob := by
    rw [IgnoreLine.runsDown_glob_iff hps]
    simp
  have hcompiled := (IgnoreLine.compileGlob_eq_ok_iff hps).mpr hup
  refine ⟨⟨l.raw, .dirs :: name.map .char, false, false⟩, ?_, rfl, rfl, ?_⟩
  · simp only [ofLine, hline, hcompiled, l]
  · exact fun path isDir => selects_name_iff hne hslash isDir

theorem selects_of_escaped_bang :
    let name : Text := "!a* ".toList
    name ≠ [] ∧ (∀ c ∈ name, c ≠ '/' ∧ c ≠ '\r' ∧ c ≠ '\n') ∧
      ∃ p, ofLine (Glob.escaped name) (some 2) = .ok (some p) ∧ p.negated = false ∧
        p.dirOnly = false ∧ p.selects "\\docs\\!a* \\b.c".toList false = true ∧
        p.selects "docs/!ab /b.c".toList false = false := by
  intro name
  have hne : name ≠ [] := by decide
  have hname : ∀ c ∈ name, c ≠ '/' ∧ c ≠ '\r' ∧ c ≠ '\n' := by decide
  obtain ⟨p, hp, hnegated, hdir, hselects⟩ := selects_of_escaped hne hname (some 2)
  refine ⟨hne, hname, p, hp, hnegated, hdir, ?_, ?_⟩
  · rw [hselects]
    decide
  · rw [Bool.eq_false_iff, Ne, hselects]
    decide

theorem selects_escaped_lineFeed :
    ∃ p, ofLine (Glob.escaped "a".toList) (some 1) = .ok (some p) ∧
      p.selects "a\n".toList false = true ∧
      "a".toList ∉ Text.splitOn '/' (slashed "a\n".toList) :=
  ⟨⟨"\\a".toList, [.dirs, .char 'a'], false, false⟩, by decide +kernel, by decide, by decide⟩

end IgnorePattern

end CommentTags
