import CommentTags.Proofs.File.Links
import CommentTags.Proofs.Walk.Failure

/-!
Walks that pass over symbolic links. A link that is added below the root changes nothing of a walk,
wherever it leads, and no bound on the depth of directories is ever met.
-/

namespace CommentTags

namespace Node

theorem size_le_of_mem {es : List (Text × Node)} {name : Text} {c : Node} (h : (name, c) ∈ es) :
    c.size ≤ sizeOfEntries es := by
  induction es with
  | nil => cases h
  | cons e es ih =>
    obtain ⟨k, v⟩ := e
    rw [sizeOfEntries]
    rcases List.mem_cons.mp h with he | h
    · cases he
      omega
    · have hle := ih h
      omega

theorem size_le_of_at? {n m : Node} {path : List Text} (h : n.at? path = some m) :
    m.size ≤ n.size := by
  induction path generalizing n with
  | nil =>
    obtain rfl := Option.some.inj h
    exact Nat.le_refl _
  | cons name rest ih =>
    obtain ⟨c, hc, hrest⟩ := Option.bind_eq_some_iff.mp h
    obtain ⟨es, rfl⟩ := exists_dir_of_child? hc
    have hchild := size_le_of_mem (mem_of_child? hc)
    have hinner := ih hrest
    rw [entries] at hchild
    rw [size]
    omega

end Node

namespace Disk

variable {d : Disk}

theorem size_le_depth (d : Disk) : d.root.size ≤ d.depth :=
  calc
    d.root.size ≤ d.root.size + 1 := Nat.le_succ _
    _ ≤ d.depth := Nat.le_mul_of_pos_right _ (Nat.succ_pos _)

theorem zero_not_mem_of_resolve {follow : Bool} {path : Text} {place : Place}
    (h : d.resolve follow path = .ok place) : Failure.zero ∉ path := by
  unfold resolve at h
  split at h
  · cases h
  · rename_i hpath
    simp only [Bool.or_eq_true, List.contains_iff_mem, not_or] at hpath
    exact hpath.2

theorem checked_of_zero_not_mem {α : Type} {path : Text} (h : Failure.zero ∉ path)
    (result : Except Failure α) : checked path result = result :=
  if_neg (fun hzero => h (List.contains_iff_mem.mp hzero))

theorem readDir_of_resolve {dir : Text} {q : List Text} {es : List (Text × Node)}
    (h : d.resolve true dir = .ok (.found q (.dir es))) : d.readDir dir = .ok es := by
  rw [readDir, checked_of_zero_not_mem (zero_not_mem_of_resolve h), node, h]

theorem listDir_of_tooLong {dir : Text} (h : d.resolve true dir = .error Failure.nameTooLong)
    (hzero : Failure.zero ∉ dir) :
    d.listDir false dir = .error (.ofCode Failure.nameTooLong dir) := by
  rw [listDir, readDir, checked_of_zero_not_mem hzero, node, h]

theorem filterMap_listed_congr {es es' : List (Text × Node)}
    (hbare : Node.bareEntries es = Node.bareEntries es') :
    es.filterMap listed? = es'.filterMap listed? := by
  rw [← filterMap_bareEntries es, ← filterMap_bareEntries es', hbare]

structure Twins (es es' : List (Text × Node)) (e : Entry) (c c' : Node) : Prop where
  first : es.lookup e.name = some c
  second : es'.lookup e.name = some c'
  listed : listed? (e.name, c) = some e
  isLink_first : c.isLink = false
  isLink_second : c'.isLink = false
  bare_eq : c.bare = c'.bare

theorem exists_twins {es es' : List (Text × Node)} (hnamed : (Node.dir es).WellNamed)
    (hnamed' : (Node.dir es').WellNamed) (hbare : Node.bareEntries es = Node.bareEntries es')
    {e : Entry} (he : e ∈ es.filterMap listed?) : ∃ c c', Twins es es' e c c' := by
  obtain ⟨c, hc, hlisted⟩ := exists_of_listed hnamed he
  obtain ⟨c', hc', hlisted'⟩ := exists_of_listed hnamed' (filterMap_listed_congr hbare ▸ he)
  have hlink := isLink_of_listed? hlisted
  have hlink' := isLink_of_listed? hlisted'
  have hlookup := Node.lookup_bareEntries hc hlink
  rw [hbare, Node.lookup_bareEntries hc' hlink'] at hlookup
  exact ⟨c, c', hc, hc', hlisted, hlink, hlink', (Option.some.inj hlookup).symm⟩

theorem readText_congr {d' : Disk} {file : Text} (h : d.node file = d'.node file)
    (encoding : Text) (codecs : Codecs) :
    d.readText file encoding codecs = d'.readText file encoding codecs := by
  simp only [readText, readBytes, h]

end Disk

namespace WalkPlan

variable {d d' : Disk} {codecs : Codecs} (plan : WalkPlan)

theorem visitDir_of_tooLong {dir : Text} (h : d.resolve true dir = .error Failure.nameTooLong)
    (hzero : Failure.zero ∉ dir) (fuel : ℕ) (path : Text) :
    (plan.withAccess (d.access false codecs)).visitDir fuel dir path =
      ⟨[.listed dir], some (.ofCode Failure.nameTooLong dir)⟩ := by
  cases fuel with
  | zero => rfl
  | succ fuel =>
    have hlist : (plan.withAccess (d.access false codecs)).access.list dir =
        .error (.ofCode Failure.nameTooLong dir) := Disk.listDir_of_tooLong h hzero
    rw [visitDir, hlist]

theorem scanFile_congr {file : Text} (h : d.node file = d'.node file) (path : Text) :
    (plan.withAccess (d.access false codecs)).scanFile file path =
      (plan.withAccess (d'.access false codecs)).scanFile file path := by
  have hread : (plan.withAccess (d.access false codecs)).access.read file
        (plan.withAccess (d.access false codecs)).encoding =
      (plan.withAccess (d'.access false codecs)).access.read file
        (plan.withAccess (d'.access false codecs)).encoding :=
    Disk.readText_congr h plan.encoding codecs
  rw [scanFile, scanFile, hread]
  rfl

theorem visitEntry_of_twins {dir path : Text} {es es' : List (Text × Node)} {e : Entry}
    {c c' : Node} {enter enter' : (dir path : Text) → WalkRun} (h : Disk.Twins es es' e c c')
    (hfile : c = c' → d.node (Path.join dir e.name) = d'.node (Path.join dir e.name))
    (hdir : ∀ inner inner', c = .dir inner → c' = .dir inner' →
      enter (Path.join dir e.name) (Path.join path e.name) =
        enter' (Path.join dir e.name) (Path.join path e.name)) :
    (plan.withAccess (d.access false codecs)).visitEntry enter dir path e =
      (plan.withAccess (d'.access false codecs)).visitEntry enter' dir path e := by
  have hsame := h.bare_eq
  have hlisted := h.listed
  unfold visitEntry
  dsimp only
  cases c with
  | link target => cases h.isLink_first
  | file bytes =>
    obtain rfl : c' = .file bytes := by
      cases c' with
      | file bytes' => exact hsame.symm
      | dir inner => cases hsame
      | link target => cases h.isLink_second
    have hkind : e.isDir = false := (congrArg Entry.isDir (Option.some.inj hlisted)).symm
    rw [hkind]
    simp only [Bool.false_eq_true, if_false]
    rw [scanFile_congr plan (hfile rfl)]
    rfl
  | dir inner =>
    obtain ⟨inner', rfl⟩ : ∃ inner', c' = .dir inner' := by
      cases c' with
      | file bytes' => cases hsame
      | dir inner' => exact ⟨inner', rfl⟩
      | link target => cases h.isLink_second
    have hkind : e.isDir = true := (congrArg Entry.isDir (Option.some.inj hlisted)).symm
    rw [hkind]
    simp only [if_true]
    rw [hdir inner inner' rfl rfl]
    rfl

theorem visitDir_of_bare (hnamed : d.root.WellNamed) (hnamed' : d'.root.WellNamed) {fuel fuel' : ℕ}
    {dir path : Text} {q q' : List Text} {es es' : List (Text × Node)}
    (hplace : d.resolve true dir = .ok (.found q (.dir es)))
    (hplace' : d'.resolve true dir = .ok (.found q' (.dir es')))
    (hbare : Node.bareEntries es = Node.bareEntries es')
    (hfuel : (Node.dir es).size ≤ fuel) (hfuel' : (Node.dir es').size ≤ fuel') :
    (plan.withAccess (d.access false codecs)).visitDir fuel dir path =
      (plan.withAccess (d'.access false codecs)).visitDir fuel' dir path := by
  -- The two bounds may differ; each is enough for its own tree, so neither is ever met.
  induction fuel generalizing fuel' dir path q q' es es' with
  | zero =>
    rw [Node.size] at hfuel
    omega
  | succ fuel ih =>
    rw [Node.size] at hfuel hfuel'
    obtain ⟨fuel', rfl⟩ : ∃ n, fuel' = n + 1 := Nat.exists_eq_add_one_of_ne_zero (by omega)
    have hwell : (Node.dir es).WellNamed := hnamed.at? (Disk.at?_of_resolve hplace)
    have hwell' : (Node.dir es').WellNamed := hnamed'.at? (Disk.at?_of_resolve hplace')
    have hlist : (plan.withAccess (d.access false codecs)).access.list dir =
        .ok (Entry.sort (es.filterMap Disk.listed?).reverse) :=
      Disk.listDir_of_readDir (Disk.readDir_of_resolve hplace)
    have hlist' : (plan.withAccess (d'.access false codecs)).access.list dir =
        .ok (Entry.sort (es.filterMap Disk.listed?).reverse) := by
      rw [Disk.filterMap_listed_congr hbare]
      exact Disk.listDir_of_readDir (Disk.readDir_of_resolve hplace')
    rw [visitDir, visitDir, hlist, hlist']
    dsimp only
    congr 2
    refine List.map_congr_left fun e he => ?_
    rw [Entry.sort, List.mem_mergeSort, List.mem_reverse] at he
    obtain ⟨c, c', htwins⟩ := Disk.exists_twins hwell hwell' hbare he
    have hname : Path.IsName e.name := by
      cases hwell with
      | dir _ hnames _ => exact hnames _ (Text.mem_of_lookup htwins.first)
    have hstep := Disk.resolve_join_both hname hplace hplace' htwins.first htwins.isLink_first
      htwins.second htwins.isLink_second
    refine plan.visitEntry_of_twins htwins ?_ ?_
    · rintro rfl
      unfold Disk.node
      rcases hstep with ⟨hd, hd'⟩ | ⟨hd, hd'⟩ <;> rw [hd, hd']
    · rintro inner inner' rfl rfl
      rcases hstep with ⟨hd, hd'⟩ | ⟨hd, hd'⟩
      · -- Both systems refuse the longer path, whatever is left of the bounds.
        have hzero : Failure.zero ∉ Path.join dir e.name := fun hzero =>
          Disk.zero_not_mem_of_resolve hplace (hname.zero_mem_of_join hzero)
        rw [visitDir_of_tooLong plan hd hzero, visitDir_of_tooLong plan hd' hzero]
      · have hchild := Node.size_le_of_mem (Text.mem_of_lookup htwins.first)
        have hchild' := Node.size_le_of_mem (Text.mem_of_lookup htwins.second)
        exact ih hd hd' (Node.dir.inj htwins.bare_eq) (by omega) (by omega)

end WalkPlan

/-- Links that are added below a root are not there for a walk from it, which ends with the same
tags or the same failure, after the same records. -/
theorem walk_of_linked (plan : WalkPlan) (codecs : Codecs) {d d' : Disk} {root : Text}
    {es : List (Text × Node)} (hnamed : d.root.WellNamed) (hroot : d.readDir root = .ok es)
    (hlinked : d.Linked d') :
    let before := plan.withAccess (d.access false codecs)
    let after := plan.withAccess (d'.access false codecs)
    after.run root = before.run root ∧
      walk after root = walk before root ∧
      walkJournal after root = walkJournal before root ∧
      ∀ depth, d'.depth ≤ depth → after.visitDir depth root [] = after.run root := by
  intro before after
  obtain ⟨q, hplace⟩ := Disk.exists_of_readDir hroot
  obtain ⟨es', hplace', hbare⟩ := hlinked.exists_dir hplace
  have hnamed' := hlinked.wellNamed hnamed
  have hsize : (Node.dir es).size ≤ d.depth :=
    (Node.size_le_of_at? (Disk.at?_of_resolve hplace)).trans d.size_le_depth
  have hsize' : (Node.dir es').size ≤ d'.depth :=
    (Node.size_le_of_at? (Disk.at?_of_resolve hplace')).trans d'.size_le_depth
  have hrun : after.run root = before.run root :=
    plan.visitDir_of_bare hnamed' hnamed hplace' hplace hbare hsize' hsize
  refine ⟨hrun, ?_, ?_, fun depth hdepth => ?_⟩
  · rw [walk, walk, hrun]
  · rw [walkJournal, walkJournal, hrun]
    rfl
  · exact plan.visitDir_of_bare hnamed' hnamed' hplace' hplace' rfl (hsize'.trans hdepth) hsize'

def plainDisk : Disk :=
  ⟨.dir [("lib".toList, .dir [("a.c".toList,
    .file (Utf8.encode "// @TODO close the gap\n".toList))])], []⟩

def loopedDisk : Disk :=
  (plainDisk.put ["lib".toList, "loop".toList] (.link "..".toList)).put ["b.c".toList]
    (.link "lib/a.c".toList)

theorem linked_loopedDisk : plainDisk.Linked loopedDisk := by
  let inner := plainDisk.put ["lib".toList, "loop".toList] (.link "..".toList)
  have hinner : plainDisk.Linked inner := by
    have hlib : plainDisk.IsDirAt ["lib".toList] := ⟨_, rfl⟩
    have hunused : plainDisk.root.at? (["lib".toList] ++ ["loop".toList]) = none := rfl
    exact Disk.Linked.refl.add "..".toList (by decide) hlib hunused
  have hroot : inner.IsDirAt [] := ⟨_, rfl⟩
  have hunused : inner.root.at? ([] ++ ["b.c".toList]) = none := rfl
  exact hinner.add "lib/a.c".toList (by decide) hroot hunused

theorem wellNamed_plainDisk : plainDisk.root.WellNamed := by
  refine .dir (by decide) (by decide) ?_
  intro e he
  obtain rfl := List.mem_singleton.mp he
  refine .dir (by decide) (by decide) ?_
  intro e he
  obtain rfl := List.mem_singleton.mp he
  exact .file _

theorem walk_of_linked_loopedDisk :
    plainDisk.root.WellNamed ∧ (∃ es, plainDisk.readDir ".".toList = .ok es) ∧
      plainDisk.Linked loopedDisk ∧
      walk (notedPlan.withAccess (loopedDisk.access false)) ".".toList =
        .ok [⟨"@TODO".toList, "close the gap".toList, [], "lib/a.c".toList, 1⟩] := by
  have hroot : ∃ es, plainDisk.readDir ".".toList = .ok es := ⟨_, rfl⟩
  obtain ⟨es, hes⟩ := hroot
  obtain ⟨-, hwalk, -⟩ :=
    walk_of_linked notedPlan {} wellNamed_plainDisk hes linked_loopedDisk
  refine ⟨wellNamed_plainDisk, ⟨es, hes⟩, linked_loopedDisk, ?_⟩
  rw [hwalk]
  decide +kernel

end CommentTags
