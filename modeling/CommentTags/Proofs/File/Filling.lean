import CommentTags.Proofs.File.Appending

namespace CommentTags

namespace Node

def Fills : Option Node → Option Node → Prop
  | none, after => after = none ∨ ∃ bytes, after = some (.file bytes)
  | some (.file _), after => ∃ bytes, after = some (.file bytes)
  | some (.dir _), after => ∃ es, after = some (.dir es)
  | some (.link target), after => after = some (.link target)

theorem fills_of_isKept {before after : Option Node} (h : IsKept before after) :
    Fills before after := by
  rcases before with _ | _ | _ | _
  · exact .inl h
  · exact ⟨_, h⟩
  · exact h
  · exact h

theorem fills_of_becomes {before : Option Node} {bytes : List UInt8}
    (h : Becomes before (some (.file bytes))) : Fills before (some (.file bytes)) := by
  rcases before with _ | _ | _ | _
  · exact .inr ⟨bytes, rfl⟩
  · exact h
  · exact h
  · exact h

theorem Fills.becomes {before after : Option Node} (h : Fills before after) :
    Becomes before after := by
  rcases before with _ | _ | _ | _
  · rcases h with rfl | ⟨bytes, rfl⟩ <;> exact nofun
  · exact h
  · exact h
  · exact h

theorem Fills.trans {before mid after : Option Node} (h : Fills before mid)
    (h' : Fills mid after) : Fills before after := by
  rcases before with _ | _ | _ | _
  · rcases h with rfl | ⟨bytes, rfl⟩
    · exact h'
    · exact .inr h'
  · obtain ⟨bytes, rfl⟩ := h
    exact h'
  · obtain ⟨es, rfl⟩ := h
    exact h'
  · obtain rfl : mid = _ := h
    exact h'

end Node

namespace Disk

variable {d d' d'' : Disk}

structure Fills (d d' : Disk) : Prop where
  cwd : d'.cwd = d.cwd
  fills : ∀ q, Node.Fills (d.root.at? q) (d'.root.at? q)

namespace Fills

theorem refl (d : Disk) : d.Fills d := ⟨rfl, fun _ => Node.fills_of_isKept (Node.isKept_refl _)⟩

theorem trans (h : d.Fills d') (h' : d'.Fills d'') : d.Fills d'' :=
  ⟨h'.cwd.trans h.cwd, fun q => (h.fills q).trans (h'.fills q)⟩

theorem grows (h : d.Fills d') : d.Grows d' := ⟨h.cwd, fun q => (h.fills q).becomes⟩

end Fills

theorem fills_of_writeBytes (hcwd : d.HasCwd) {append : Bool} {path : Text} {bytes : List UInt8}
    (h : d.writeBytes append path bytes = .ok d') : d.Fills d' := by
  obtain ⟨-, place, p, content, hplace, hp, rfl, -⟩ := exists_put_of_writeBytes h
  have hholds := holds_of_resolve hcwd hplace
  obtain ⟨dir, name, rfl, hdir⟩ := exists_parent_of_holds hcwd hholds hp
  refine ⟨rfl, fun q => ?_⟩
  by_cases hq : q = dir ++ [name]
  · subst hq
    have hat : (d.put (dir ++ [name]) (.file content)).root.at? (dir ++ [name]) =
        some (.file content) := Node.at?_insert
    rw [hat]
    exact Node.fills_of_becomes (becomes_file_of_holds hholds hp content)
  · exact Node.fills_of_isKept (keeps_put (open_of_holds hholds hp) hdir rfl hq)

section Locate

variable {follow : Bool} {dir todo : List Text} {code : Int}
  {jump jump' : List Text → Text → List Text → Except Int Place}

theorem locateBy_error_of_fills (hfills : d.Fills d') (hdir : d.IsDirAt dir)
    (hjump : ∀ dir target rest code, d.IsDirAt dir → jump dir target rest = .error code →
      ∃ code', jump' dir target rest = .error code')
    (h : d.locateBy follow jump dir todo = .error code) :
    ∃ code', d'.locateBy follow jump' dir todo = .error code' := by
  have hchild : ∀ dir name, Node.Fills ((d.root.at? dir).bind (·.child? name))
      ((d'.root.at? dir).bind (·.child? name)) := by
    intro dir name
    rw [← Node.at?_append_singleton, ← Node.at?_append_singleton]
    exact hfills.fills _
  -- the cases left to the end are those of a path that leads somewhere
  fun_induction locateBy d follow jump dir todo with
  | case2 dir hnone =>
    obtain ⟨es, hes⟩ := hdir
    rw [hes] at hnone
    cases hnone
  | case3 dir rest ih =>
    rw [locateBy, if_pos rfl]
    exact ih hdir h
  | case4 dir rest hdot ih =>
    rw [locateBy, if_neg hdot, if_pos rfl]
    exact ih hdir.dropLast h
  | case5 dir name rest hdot hdots hlength =>
    rw [locateBy, if_neg hdot, if_neg hdots, if_pos hlength]
    exact ⟨_, rfl⟩
  | case7 dir name rest hdot hdots hlength hnone hrest =>
    -- a file may be now where nothing was, but there is nothing below a file
    have hnow := hchild dir name
    rw [hnone] at hnow
    rw [locateBy, if_neg hdot, if_neg hdots, if_neg hlength]
    rcases hnow with hnow | ⟨bytes, hnow⟩
    · simp only [hnow, if_neg hrest]
      exact ⟨_, rfl⟩
    · simp only [hnow, if_neg hrest]
      exact ⟨_, rfl⟩
  | case8 dir name rest hdot hdots hlength es hes ih =>
    have hnow := hchild dir name
    rw [hes] at hnow
    obtain ⟨es', hes'⟩ := hnow
    rw [locateBy, if_neg hdot, if_neg hdots, if_neg hlength, hes']
    rw [← Node.at?_append_singleton] at hes
    exact ih ⟨es, hes⟩ h
  | case10 dir name rest hdot hdots hlength old hold hrest =>
    have hnow := hchild dir name
    rw [hold] at hnow
    obtain ⟨bytes, hbytes⟩ := hnow
    rw [locateBy, if_neg hdot, if_neg hdots, if_neg hlength, hbytes]
    simp only [if_neg hrest]
    exact ⟨_, rfl⟩
  | case12 dir name rest hdot hdots hlength target htarget hlast =>
    have hnow := hchild dir name
    rw [htarget] at hnow
    rw [locateBy, if_neg hdot, if_neg hdots, if_neg hlength, hnow]
    simp only [hlast]
    exact hjump _ _ _ _ hdir h
  | case1 | case6 | case9 | case11 => cases h

theorem locate_error_of_fills (hfills : d.Fills d') {links : ℕ} (hdir : d.IsDirAt dir)
    (h : d.locate follow links dir todo = .error code) :
    ∃ code', d'.locate follow links dir todo = .error code' := by
  induction links generalizing dir todo code with
  | zero => exact locateBy_error_of_fills hfills hdir (fun _ _ _ _ _ _ => ⟨_, rfl⟩) h
  | succ links ih =>
    refine locateBy_error_of_fills hfills hdir (fun dir target rest code hdir hjump => ?_) h
    split at hjump
    · rename_i hempty
      rw [if_pos hempty]
      exact ⟨_, rfl⟩
    · rename_i hempty
      rw [if_neg hempty]
      refine ih ?_ hjump
      split
      · exact hdir.nil
      · exact hdir

end Locate

variable {path : Text}

theorem resolve_error_of_fills (hcwd : d.HasCwd) (hfills : d.Fills d') {follow : Bool} {code : Int}
    (h : d.resolve follow path = .error code) : ∃ code', d'.resolve follow path = .error code' := by
  unfold resolve at h ⊢
  split at h
  · rename_i hpath
    rw [if_pos hpath]
    exact ⟨_, rfl⟩
  · rename_i hpath
    rw [if_neg hpath]
    split at h
    · rename_i hlength
      rw [if_pos hlength]
      exact ⟨_, rfl⟩
    · rename_i hlength
      rw [if_neg hlength, hfills.cwd]
      exact locate_error_of_fills hfills (hcwd.isDirAt path) h

theorem filePath?_within_of_fills (hfills : d.Fills d') {place : Place}
    (hplace : d.root.at? place.names = place.node?) :
    (place.within d').filePath? = place.filePath? := by
  have hnow := hfills.fills place.names
  rw [hplace] at hnow
  rcases place with ⟨p, old | es | target⟩ | ⟨dir, name⟩
  · obtain ⟨bytes, hbytes⟩ := hnow
    simp only [Place.within, hbytes]
    rfl
  · obtain ⟨es', hes⟩ := hnow
    simp only [Place.within, hes]
    rfl
  · have hlink : d'.root.at? p = some (.link target) := hnow
    simp only [Place.within, Place.names, hlink]
  · rcases hnow with hnone | ⟨bytes, hbytes⟩
    · simp only [Place.within, hnone]
    · simp only [Place.within, hbytes]
      rfl

theorem appendable_iff_of_fills (hcwd : d.HasCwd) (hfills : d.Fills d') :
    d'.Appendable path ↔ d.Appendable path := by
  rw [appendable_iff, appendable_iff]
  refine and_congr_right fun _ => ?_
  cases hresolve : d.resolve true path with
  | error code =>
    obtain ⟨code', hcode⟩ := resolve_error_of_fills hcwd hfills hresolve
    simp [hcode]
  | ok place =>
    have hfile := filePath?_within_of_fills hfills (at?_of_resolve hresolve)
    simp only [resolve_of_grows hfills.grows hresolve, Except.ok.injEq, exists_and_left,
      exists_eq_left', hfile]

end Disk

end CommentTags
