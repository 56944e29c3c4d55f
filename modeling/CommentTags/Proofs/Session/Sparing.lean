import CommentTags.Guard
import CommentTags.Proofs.File.Writing
import CommentTags.Proofs.Session.Actions

namespace CommentTags

namespace Disk

variable {d d' d'' : Disk} {paths : List Text} {q : List Text}

/-- The disk grew, and what is at a place was kept unless one of the paths leads there. -/
structure Spares (d : Disk) (paths : List Text) (q : List Text) (d' : Disk) : Prop where
  grows : d.Grows d'
  keeps : (∀ path ∈ paths, ¬ d'.LeadsTo path q) → d.Keeps d' q

namespace Spares

theorem refl (d : Disk) (paths : List Text) (q : List Text) : d.Spares paths q d :=
  ⟨.refl d, fun _ => Node.isKept_refl _⟩

theorem trans (h : d.Spares paths q d') (h' : d'.Spares paths q d'') : d.Spares paths q d'' := by
  refine ⟨h.grows.trans h'.grows, fun hpaths => ?_⟩
  -- a path that leads to the place in between still does so in the end
  have hmid : ∀ path ∈ paths, ¬ d'.LeadsTo path q :=
    fun path hpath hleads => hpaths path hpath (hleads.of_grows h'.grows)
  exact (h.keeps hmid).trans (h'.keeps hpaths)

theorem mono {more : List Text} (h : d.Spares paths q d') (hsub : paths ⊆ more) :
    d.Spares more q d' :=
  ⟨h.grows, fun hmore => h.keeps fun path hpath => hmore path (hsub hpath)⟩

end Spares

theorem spares_of_writeBytes (hcwd : d.HasCwd) {append : Bool} {path : Text} {bytes : List UInt8}
    (h : d.writeBytes append path bytes = .ok d') (q : List Text) : d.Spares [path] q d' := by
  refine ⟨grows_of_writeBytes hcwd h, fun hpaths => ?_⟩
  exact keeps_of_writeBytes hcwd h (hpaths path List.mem_cons_self)

@[elab_as_elim]
theorem LoggedTo.induct {file : Option Text} {room : ℕ} {P : Disk → Prop}
    (h : d.LoggedTo file room d') (hcwd : d.HasCwd) (hd : P d)
    (hstep : ∀ {x y path bytes}, file = some path → x.HasCwd → P x →
      x.writeBytes true path bytes = .ok y → P y) : P d' := by
  obtain ⟨lines, rfl⟩ := h
  induction lines generalizing d with
  | nil => exact hd
  | cons line lines ih =>
    rw [List.foldl_cons]
    cases file with
    | none => exact ih hcwd hd
    | some path =>
      cases hwrite : d.writeBytes true path (line.bytes room) with
      | ok made =>
        simp only [logged, hwrite]
        exact ih ((grows_of_writeBytes hcwd hwrite).hasCwd hcwd) (hstep rfl hcwd hd hwrite)
      | error failure =>
        simp only [logged, hwrite]
        exact ih hcwd hd

theorem LoggedTo.spares {file : Option Text} {room : ℕ} (h : d.LoggedTo file room d')
    (hcwd : d.HasCwd) (q : List Text) : d.Spares file.toList q d' := by
  refine h.induct hcwd (.refl d _ q) ?_
  rintro x y path bytes rfl hx hspares hwrite
  exact hspares.trans (spares_of_writeBytes hx hwrite q)

theorem resolve_ownDir_eq_locate (d : Disk) (follow : Bool) :
    d.resolve follow Settings.ownDir = d.locate follow linkLimit d.cwd [Settings.ownDir] := by
  have hsteps : steps Settings.ownDir = [Settings.ownDir] := by decide +kernel
  rw [resolve, if_neg (by decide +kernel), if_neg (by decide +kernel),
    if_neg (by decide +kernel), hsteps]

theorem resolve_ownDir (d : Disk) :
    d.resolve false Settings.ownDir = .ok (.missing d.cwd Settings.ownDir) ∨
      ∃ node, d.resolve false Settings.ownDir = .ok (.found (d.cwd ++ [Settings.ownDir]) node) := by
  rw [resolve_ownDir_eq_locate, linkLimit, locate, locateBy, if_neg (by decide +kernel),
    if_neg (by decide +kernel), if_neg (by decide +kernel)]
  cases hchild : (d.root.at? d.cwd).bind (·.child? Settings.ownDir) with
  | none => exact .inl rfl
  | some node =>
    right
    cases node with
    | file bytes => exact ⟨_, rfl⟩
    | dir es =>
      rw [← Node.at?_append_singleton] at hchild
      simp only [locateBy, hchild]
      exact ⟨_, rfl⟩
    | link target => exact ⟨_, rfl⟩

theorem ensureDir_ownDir (d : Disk) :
    (d.resolve false Settings.ownDir = .ok (.missing d.cwd Settings.ownDir) ∧
      d.makeDir Settings.ownDir = .ok (d.put (d.cwd ++ [Settings.ownDir]) (.dir [])) ∧
      d.ensureDir Settings.ownDir = d.makeDir Settings.ownDir) ∨
    (∃ node, d.resolve false Settings.ownDir = .ok (.found (d.cwd ++ [Settings.ownDir]) node)) ∧
      d.ensureDir Settings.ownDir =
        d.unlessPresent Settings.ownDir (.ofCode Failure.fileExists Settings.ownDir) := by
  have hzero : Settings.ownDir.contains Failure.zero = false := by decide +kernel
  have hlength : Settings.ownDir.length = 8 + 1 := by decide +kernel
  rw [ensureDir, hlength, makeDirs]
  rcases resolve_ownDir d with hmissing | ⟨node, hfound⟩
  · have hmake : d.makeDir Settings.ownDir =
        .ok (d.put (d.cwd ++ [Settings.ownDir]) (.dir [])) := by
      simp only [makeDir, checked, hzero, hmissing]
      rfl
    exact .inl ⟨hmissing, hmake, by rw [hmake]⟩
  · have hmake : d.makeDir Settings.ownDir =
        .error (.ofCode Failure.fileExists Settings.ownDir) := by
      simp only [makeDir, checked, hzero, hfound]
      rfl
    exact .inr ⟨⟨node, hfound⟩, by rw [hmake]; rfl⟩

theorem eq_or_makeDir_of_ensureDir_ownDir (h : d.ensureDir Settings.ownDir = .ok d') :
    d' = d ∨ d.makeDir Settings.ownDir = .ok d' ∧
      d.resolve false Settings.ownDir = .ok (.missing d.cwd Settings.ownDir) := by
  rcases ensureDir_ownDir d with ⟨hmissing, -, hensure⟩ | ⟨-, hensure⟩
  · exact .inr ⟨hensure.symm.trans h, hmissing⟩
  · exact .inl (eq_of_unlessPresent (hensure.symm.trans h))

theorem spares_of_ensureDir_ownDir (hcwd : d.HasCwd) (h : d.ensureDir Settings.ownDir = .ok d')
    (paths : List Text) (hq : q ≠ d.cwd ++ [Settings.ownDir]) : d.Spares paths q d' := by
  rcases eq_or_makeDir_of_ensureDir_ownDir h with rfl | ⟨hmake, hplace⟩
  · exact .refl d' paths q
  · exact ⟨grows_of_makeDir hcwd hmake, fun _ => keeps_of_makeDir hcwd hplace hmake hq⟩

end Disk

end CommentTags
