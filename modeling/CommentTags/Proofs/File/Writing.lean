import CommentTags.Proofs.File.Growth

namespace CommentTags.Disk

variable {d d' : Disk} {q : List Text} {bytes : List UInt8}

section Put

variable {dir : List Text} {name : Text} {node : Node}

theorem open_of_holds {place : Place} (h : place.Holds d) (hq : place.filePath? = some q) :
    d.root.Open q := by
  rcases place with ⟨_, old | _ | _⟩ | ⟨dir, name⟩
  · cases hq
    exact Node.open_of_at? h (by simp)
  · cases hq
  · cases hq
  · cases hq
    obtain ⟨⟨es, hes⟩, hmissing⟩ := h
    exact Node.open_of_missing hes hmissing

theorem exists_parent_of_holds (hcwd : d.HasCwd) {place : Place} (h : place.Holds d)
    (hq : place.filePath? = some q) : ∃ dir name, q = dir ++ [name] ∧ d.IsDirAt dir := by
  rcases place with ⟨_, old | _ | _⟩ | ⟨dir, name⟩
  · cases hq
    have hold : d.root.at? q = some (.file old) := h
    rcases List.eq_nil_or_concat q with rfl | ⟨front, name, rfl⟩
    · obtain ⟨es, hes⟩ := hcwd.nil
      rw [hes] at hold
      cases hold
    · rw [List.concat_eq_append] at hold ⊢
      exact ⟨front, name, rfl, Node.exists_dir_of_at?_append hold⟩
  · cases hq
  · cases hq
  · cases hq
    exact ⟨dir, name, rfl, h.1⟩

theorem becomes_file_of_holds {place : Place} (h : place.Holds d) (hq : place.filePath? = some q)
    (bytes : List UInt8) : Node.Becomes (d.root.at? q) (some (.file bytes)) := by
  rcases place with ⟨_, old | _ | _⟩ | ⟨dir, name⟩
  · cases hq
    have hold : d.root.at? q = some (.file old) := h
    rw [hold]
    exact ⟨bytes, rfl⟩
  · cases hq
  · cases hq
  · cases hq
    rw [h.2]
    exact nofun

theorem keeps_put (hopen : d.root.Open (dir ++ [name])) (hdir : d.IsDirAt dir)
    (hnode : node.entries = []) (hne : q ≠ dir ++ [name]) :
    d.Keeps (d.put (dir ++ [name]) node) q := by
  obtain ⟨es, hes⟩ := hdir
  exact Node.isKept_insert hopen hes hnode hne

theorem grows_put (hopen : d.root.Open (dir ++ [name])) (hdir : d.IsDirAt dir)
    (hnode : node.entries = [])
    (hbecomes : Node.Becomes (d.root.at? (dir ++ [name])) (some node)) :
    d.Grows (d.put (dir ++ [name]) node) := by
  refine ⟨rfl, fun q => ?_⟩
  by_cases hq : q = dir ++ [name]
  · subst hq
    have hat : (d.put (dir ++ [name]) node).root.at? (dir ++ [name]) = some node := Node.at?_insert
    rw [hat]
    exact hbecomes
  · exact (keeps_put hopen hdir hnode hq).becomes

end Put

theorem exists_put_of_writeBytes {append : Bool} {path : Text}
    (h : d.writeBytes append path bytes = .ok d') :
    path.contains Failure.zero = false ∧ ∃ place q content, d.resolve true path = .ok place ∧
      place.filePath? = some q ∧ d' = d.put q (.file content) ∧
      (append = false → content = bytes) := by
  unfold writeBytes checked at h
  split at h
  · cases h
  · rename_i hzero
    refine ⟨Bool.eq_false_iff.mpr hzero, ?_⟩
    split at h
    · rename_i p old hplace
      exact ⟨_, p, _, hplace, rfl, (Except.ok.inj h).symm, fun hnew => by simp [hnew]⟩
    · cases h
    · rename_i dir name hplace
      exact ⟨_, dir ++ [name], _, hplace, rfl, (Except.ok.inj h).symm, fun _ => rfl⟩
    · cases h

theorem grows_of_writeBytes (hcwd : d.HasCwd) {append : Bool} {path : Text}
    (h : d.writeBytes append path bytes = .ok d') : d.Grows d' := by
  obtain ⟨-, place, q, content, hplace, hq, rfl, -⟩ := exists_put_of_writeBytes h
  have hholds := holds_of_resolve hcwd hplace
  obtain ⟨dir, name, rfl, hdir⟩ := exists_parent_of_holds hcwd hholds hq
  exact grows_put (open_of_holds hholds hq) hdir rfl (becomes_file_of_holds hholds hq content)

theorem keeps_of_writeBytes (hcwd : d.HasCwd) {append : Bool} {path : Text}
    (h : d.writeBytes append path bytes = .ok d') (hq : ¬ d'.LeadsTo path q) : d.Keeps d' q := by
  have hgrows := grows_of_writeBytes hcwd h
  obtain ⟨-, place, p, content, hplace, hp, rfl, -⟩ := exists_put_of_writeBytes h
  have hholds := holds_of_resolve hcwd hplace
  have hleads : d.LeadsTo path p := ⟨place, hplace, Place.names_of_filePath? hp⟩
  have hne : q ≠ p := by
    rintro rfl
    exact hq (hleads.of_grows hgrows)
  obtain ⟨dir, name, rfl, hdir⟩ := exists_parent_of_holds hcwd hholds hp
  exact keeps_put (open_of_holds hholds hp) hdir rfl hne

theorem readBytes_of_grows {path : Text} (hzero : path.contains Failure.zero = false)
    {place : Place} (hplace : d.resolve true path = .ok place) (hgrows : d.Grows d')
    (hfile : d'.root.at? place.names = some (.file bytes)) : d'.readBytes path = .ok bytes := by
  have hresolve := resolve_of_grows hgrows hplace
  rw [Place.within, hfile] at hresolve
  simp only [readBytes, checked, hzero, node, hresolve]
  rfl

theorem readBytes_of_writeBytes (hcwd : d.HasCwd) {path : Text}
    (h : d.writeBytes false path bytes = .ok d') : d'.readBytes path = .ok bytes := by
  have hgrows := grows_of_writeBytes hcwd h
  obtain ⟨hzero, place, q, content, hplace, hq, rfl, hcontent⟩ := exists_put_of_writeBytes h
  obtain rfl := hcontent rfl
  refine readBytes_of_grows hzero hplace hgrows ?_
  rw [Place.names_of_filePath? hq]
  exact Node.at?_insert

theorem exists_of_readBytes {path : Text} (h : d.readBytes path = .ok bytes) :
    path.contains Failure.zero = false ∧
      ∃ q, d.resolve true path = .ok (.found q (.file bytes)) := by
  unfold readBytes checked at h
  split at h
  · cases h
  · rename_i hzero
    refine ⟨Bool.eq_false_iff.mpr hzero, ?_⟩
    split at h
    · rename_i content hnode
      obtain rfl := Except.ok.inj h
      unfold node at hnode
      split at hnode
      · rename_i q found hplace
        obtain rfl := Except.ok.inj hnode
        exact ⟨q, hplace⟩
      · cases hnode
      · cases hnode
    · cases h
    · cases h

theorem readBytes_of_keeps (hcwd : d.HasCwd) {path : Text} (h : d.readBytes path = .ok bytes)
    (hgrows : d.Grows d') (hkeeps : ∀ q, d.LeadsTo path q → d.Keeps d' q) :
    d'.readBytes path = .ok bytes := by
  obtain ⟨hzero, q, hplace⟩ := exists_of_readBytes h
  have hat : d.root.at? q = some (.file bytes) := holds_of_resolve hcwd hplace
  have hkept := hkeeps q ⟨_, hplace, rfl⟩
  rw [Keeps, hat] at hkept
  exact readBytes_of_grows hzero hplace hgrows hkept

theorem exists_put_of_makeDir {path : Text} (h : d.makeDir path = .ok d') :
    ∃ dir name, d.resolve false path = .ok (.missing dir name) ∧
      d' = d.put (dir ++ [name]) (.dir []) := by
  unfold makeDir checked at h
  split at h
  · cases h
  · split at h
    · cases h
    · rename_i dir name hplace
      exact ⟨dir, name, hplace, (Except.ok.inj h).symm⟩
    · cases h

theorem grows_of_makeDir (hcwd : d.HasCwd) {path : Text} (h : d.makeDir path = .ok d') :
    d.Grows d' := by
  obtain ⟨dir, name, hplace, rfl⟩ := exists_put_of_makeDir h
  have hholds := holds_of_resolve hcwd hplace
  refine grows_put (open_of_holds hholds rfl) hholds.1 rfl ?_
  rw [hholds.2]
  exact nofun

theorem keeps_of_makeDir (hcwd : d.HasCwd) {path : Text} {dir : List Text} {name : Text}
    (hplace : d.resolve false path = .ok (.missing dir name)) (h : d.makeDir path = .ok d')
    (hq : q ≠ dir ++ [name]) : d.Keeps d' q := by
  obtain ⟨dir', name', hplace', rfl⟩ := exists_put_of_makeDir h
  obtain ⟨rfl, rfl⟩ := Place.missing.inj (Except.ok.inj (hplace'.symm.trans hplace))
  have hholds := holds_of_resolve hcwd hplace
  exact keeps_put (open_of_holds hholds rfl) hholds.1 rfl hq

theorem eq_of_unlessPresent {path : Text} {failure : Failure}
    (h : d.unlessPresent path failure = .ok d') : d' = d := by
  unfold unlessPresent at h
  split at h
  · exact (Except.ok.inj h).symm
  · cases h
  · cases h

theorem grows_of_makeDirs (hcwd : d.HasCwd) {fuel : ℕ} {path : Text}
    (h : d.makeDirs fuel path = .ok d') : d.Grows d' := by
  induction fuel generalizing path d' with
  | zero => exact grows_of_makeDir hcwd h
  | succ fuel ih =>
    unfold makeDirs at h
    split at h
    · rename_i made hmade
      obtain rfl := Except.ok.inj h
      exact grows_of_makeDir hcwd hmade
    · dsimp only at h
      split at h
      -- the parent is missing: it is made first, and then the directory itself
      · split at h
        · cases h
        · rename_i made hmade
          have hmade := ih hmade
          split at h
          · rename_i made' hmade'
            obtain rfl := Except.ok.inj h
            exact hmade.trans (grows_of_makeDir (hmade.hasCwd hcwd) hmade')
          · split at h
            · cases h
            · rwa [eq_of_unlessPresent h]
      · split at h
        · cases h
        · rw [eq_of_unlessPresent h]
          exact .refl d

end CommentTags.Disk
