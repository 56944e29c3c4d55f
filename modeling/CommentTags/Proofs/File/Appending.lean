import CommentTags.Proofs.File.Writing

namespace CommentTags.Disk

variable {d d' : Disk} {path : Text}

def contents (d : Disk) (path : Text) : List UInt8 := (d.readBytes path).toOption.getD []

def Appendable (d : Disk) (path : Text) : Prop := ∃ d', d.writeBytes true path [] = .ok d'

def Place.content : Place → List UInt8
  | .found _ (.file old) => old
  | _ => []

theorem Appendable.exists_place (h : d.Appendable path) :
    path.contains Failure.zero = false ∧
      ∃ place q, d.resolve true path = .ok place ∧ place.filePath? = some q := by
  obtain ⟨d', hwrite⟩ := h
  obtain ⟨hzero, place, q, -, hplace, hq, -⟩ := exists_put_of_writeBytes hwrite
  exact ⟨hzero, place, q, hplace, hq⟩

section Place

variable {place : Place} {q : List Text} (hzero : path.contains Failure.zero = false)
  (hplace : d.resolve true path = .ok place) (hq : place.filePath? = some q)

include hzero hplace hq

theorem writeBytes_of_place (bytes : List UInt8) :
    d.writeBytes true path bytes = .ok (d.put q (.file (place.content ++ bytes))) := by
  simp only [writeBytes, checked, hzero, hplace]
  rcases place with ⟨_, old | _ | _⟩ | ⟨dir, name⟩
  · obtain rfl := Option.some.inj hq
    rfl
  · cases hq
  · cases hq
  · obtain rfl := Option.some.inj hq
    rfl

theorem contents_of_place : d.contents path = place.content := by
  simp only [contents, readBytes, checked, hzero, node, hplace]
  rcases place with ⟨_, old | _ | _⟩ | ⟨dir, name⟩
  · rfl
  · cases hq
  · cases hq
  · rfl

end Place

theorem appendable_iff :
    d.Appendable path ↔ path.contains Failure.zero = false ∧
      ∃ place q, d.resolve true path = .ok place ∧ place.filePath? = some q :=
  ⟨Appendable.exists_place, fun ⟨hzero, _, _, hplace, hq⟩ =>
    ⟨_, writeBytes_of_place hzero hplace hq []⟩⟩

theorem error_of_not_appendable (hzero : path.contains Failure.zero = false)
    (h : ¬ d.Appendable path) (bytes : List UInt8) :
    ∃ code, d.writeBytes true path bytes = .error (.ofCode code path) := by
  simp only [writeBytes, checked, hzero]
  cases hplace : d.resolve true path with
  | error code => exact ⟨code, rfl⟩
  | ok place =>
    have hnone : place.filePath? = none := by
      by_contra hne
      obtain ⟨q, hq⟩ := Option.ne_none_iff_exists'.mp hne
      exact h (appendable_iff.mpr ⟨hzero, place, q, hplace, hq⟩)
    rcases place with ⟨_, _ | _ | _⟩ | ⟨dir, name⟩
    · cases hnone
    · exact ⟨_, rfl⟩
    · exact ⟨_, rfl⟩
    · cases hnone

theorem readBytes_of_append (hcwd : d.HasCwd) {bytes : List UInt8}
    (h : d.writeBytes true path bytes = .ok d') :
    d'.readBytes path = .ok (d.contents path ++ bytes) := by
  have hgrows := grows_of_writeBytes hcwd h
  obtain ⟨hzero, place, q, -, hplace, hq, -⟩ := exists_put_of_writeBytes h
  obtain rfl := Except.ok.inj ((writeBytes_of_place hzero hplace hq bytes).symm.trans h)
  refine readBytes_of_grows hzero hplace hgrows ?_
  rw [contents_of_place hzero hplace hq, Place.names_of_filePath? hq]
  exact Node.at?_insert

theorem exists_more_of_append (hcwd : d.HasCwd) {other : Text} {bytes old : List UInt8}
    (h : d.writeBytes true other bytes = .ok d') (hread : d.readBytes path = .ok old) :
    ∃ more, d'.readBytes path = .ok (old ++ more) := by
  have hgrows := grows_of_writeBytes hcwd h
  obtain ⟨hzero, q, hplace⟩ := exists_of_readBytes hread
  have hold : d.root.at? q = some (.file old) := holds_of_resolve hcwd hplace
  obtain ⟨hzero', place, p, -, hother, hp, -⟩ := exists_put_of_writeBytes h
  obtain rfl := Except.ok.inj ((writeBytes_of_place hzero' hother hp bytes).symm.trans h)
  by_cases hq : q = p
  · subst hq
    have hnode := at?_of_resolve hother
    rw [Place.names_of_filePath? hp, hold] at hnode
    have hcontent : place.content = old := by
      rcases place with ⟨_, _⟩ | ⟨dir, name⟩
      · obtain rfl := Option.some.inj hnode
        rfl
      · cases hnode
    refine ⟨bytes, readBytes_of_grows hzero hplace hgrows ?_⟩
    rw [← hcontent]
    exact Node.at?_insert
  · have hholds := holds_of_resolve hcwd hother
    obtain ⟨dir, name, rfl, hdir⟩ := exists_parent_of_holds hcwd hholds hp
    have hkept : d.Keeps (d.put (dir ++ [name]) (.file (place.content ++ bytes))) q :=
      keeps_put (open_of_holds hholds hp) hdir rfl hq
    rw [Keeps, hold] at hkept
    refine ⟨[], ?_⟩
    rw [List.append_nil]
    exact readBytes_of_grows hzero hplace hgrows hkept

theorem exists_append (hcwd : d.HasCwd) (h : d.Appendable path) (bytes : List UInt8) :
    ∃ d', d.writeBytes true path bytes = .ok d' ∧ d'.HasCwd ∧ d'.Appendable path ∧
      d'.contents path = d.contents path ++ bytes := by
  obtain ⟨hzero, place, q, hplace, hq⟩ := h.exists_place
  have hwrite := writeBytes_of_place hzero hplace hq bytes
  have hgrows := grows_of_writeBytes hcwd hwrite
  have hplace' := resolve_of_grows hgrows hplace
  have hat : (d.put q (.file (place.content ++ bytes))).root.at? q =
      some (.file (place.content ++ bytes)) := Node.at?_insert
  rw [Place.within, Place.names_of_filePath? hq, hat] at hplace'
  refine ⟨_, hwrite, hgrows.hasCwd hcwd, ⟨_, writeBytes_of_place hzero hplace' rfl []⟩, ?_⟩
  rw [contents_of_place hzero hplace hq, contents_of_place hzero hplace' rfl]
  rfl

end CommentTags.Disk
