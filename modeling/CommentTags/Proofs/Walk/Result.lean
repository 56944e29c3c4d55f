import CommentTags.Proofs.Walk.Survivors
import Mathlib.Data.List.Nodup

namespace CommentTags

def enters (patterns : List IgnorePattern) (dir : List Text) : Bool :=
  dir.getLast? != some versionControlDir && !isIgnored patterns (Path.joined dir) true

def survives (patterns : List IgnorePattern) (file : List Text) : Bool :=
  (Path.above file).all (enters patterns) && !isIgnored patterns (Path.joined file) false

namespace Folder

def survivors (patterns : List IgnorePattern) (d : Folder) : List (List Text × List Text) :=
  d.files.filter (fun f => survives patterns f.1)

def reached (patterns : List IgnorePattern) (d : Folder) : List (List Text) :=
  d.dirs.filter (fun p => (Path.above p).all (enters patterns) && enters patterns p)

def fileTags (registry : Registry) (marker : Text) (f : List Text × List Text) : List Tag :=
  scanLines ⟨registry.styleOf (Path.extension (f.1.getLastD [])), marker, Path.joined f.1⟩ f.2

def tags (registry : Registry) (patterns : List IgnorePattern) (marker : Text) (d : Folder) :
    List Tag :=
  (d.survivors patterns).flatMap (fileTags registry marker)

end Folder

namespace WalkPlan

variable (plan : WalkPlan)

theorem prunesDir_of_plain {dir : List Text} (hne : dir ≠ []) (h : ∀ n ∈ dir, Path.Plain n) :
    (!plan.prunesDir dir) = enters plan.patterns dir := by
  obtain ⟨ns, n, rfl⟩ := List.eq_nil_or_concat' dir |>.resolve_left hne
  rw [prunesDir, prunes, Path.below_nil_of_plain h, enters]
  simp [bne]

theorem reaches_of_plain {names : List Text} (h : ∀ n ∈ names, Path.Plain n) :
    plan.reaches [] names = (Path.above names).all (enters plan.patterns) := by
  unfold reaches
  rw [Bool.eq_iff_iff, List.all_eq_true, List.all_eq_true]
  apply forall₂_congr
  intro dir hdir
  obtain ⟨hne, e, -, rfl⟩ := Path.mem_above hdir
  rw [List.nil_append, plan.prunesDir_of_plain hne (fun n hn => h n (List.mem_append_left e hn))]

theorem kept_of_plain {d : Folder} (h : d.AllNames Path.Plain) :
    plan.kept d = d.survivors plan.patterns := by
  apply List.filter_congr
  intro f hf
  have hf := (Folder.names_of_mem_files h hf).2
  rw [plan.reaches_of_plain hf, Path.below_nil_of_plain hf, survives]

theorem entered_of_plain {d : Folder} (h : d.AllNames Path.Plain) :
    plan.entered d = d.reached plan.patterns := by
  apply List.filter_congr
  intro p hp
  obtain ⟨hne, hp⟩ := Folder.names_of_mem_dirs h hp
  rw [plan.reaches_of_plain hp, plan.prunesDir_of_plain hne hp]

theorem searchAt_of_plain (root : Text) {names : List Text} (hne : names ≠ [])
    (h : ∀ n ∈ names, Path.Plain n) :
    plan.searchAt root names =
      ⟨plan.registry.styleOf (Path.extension (names.getLastD [])), plan.marker,
        Path.joined names⟩ := by
  obtain ⟨ns, n, rfl⟩ := List.eq_nil_or_concat' names |>.resolve_left hne
  rw [searchAt, Path.extension_below root ns (h n (by simp)), Path.below_nil_of_plain h]
  simp

end WalkPlan

namespace Folder

theorem nodup_of_pairwise_lt {ps : List (List Text)} (h : ps.Pairwise (· < ·)) : ps.Nodup := by
  apply h.imp
  intro p q hlt he
  rw [he] at hlt
  exact List.lt_irrefl q hlt

theorem pairwise_survivors {d : Folder} (h : d.Ordered) (patterns : List IgnorePattern) :
    ((d.survivors patterns).map Prod.fst).Pairwise (· < ·) :=
  (pairwise_files h).sublist (List.filter_sublist.map Prod.fst)

theorem pairwise_reached {d : Folder} (h : d.Ordered) (patterns : List IgnorePattern) :
    ([] :: d.reached patterns).Pairwise (· < ·) := by
  rw [List.pairwise_cons]
  refine ⟨?_, (pairwise_dirs h).sublist List.filter_sublist⟩
  intro p hp
  obtain ⟨e, -, q, rfl⟩ := exists_entry_of_mem_dirs (List.mem_of_mem_filter hp)
  exact List.nil_lt_cons _ _

theorem nodup_map_fst {α β γ : Type} {l : List (α × β)} (h : (l.map Prod.fst).Nodup) {g : α → γ}
    (hg : ∀ x ∈ l, ∀ y ∈ l, g x.1 = g y.1 → x.1 = y.1) : (l.map (fun x => g x.1)).Nodup := by
  have hmap : l.map (fun x => g x.1) = (l.map Prod.fst).map g := by
    rw [List.map_map]
    rfl
  rw [hmap]
  apply List.Nodup.map_on _ h
  intro a ha b hb hab
  obtain ⟨x, hx, rfl⟩ := List.mem_map.mp ha
  obtain ⟨y, hy, rfl⟩ := List.mem_map.mp hb
  exact hg x hx y hy hab

theorem filter_flatMap_of_nodup {α β κ : Type} [DecidableEq κ] (key : α → κ) (of : β → κ)
    (g : α → List β) {l : List α} (hof : ∀ x ∈ l, ∀ y ∈ g x, of y = key x)
    (hnd : (l.map key).Nodup) {x : α} (hx : x ∈ l) :
    (l.flatMap g).filter (fun y => of y = key x) = g x := by
  induction l with
  | nil => cases hx
  | cons a l ih =>
    rw [List.map_cons, List.nodup_cons] at hnd
    have hofl : ∀ z ∈ l, ∀ y ∈ g z, of y = key z := fun z hz => hof z (List.mem_cons_of_mem a hz)
    rw [List.flatMap_cons, List.filter_append]
    rcases List.mem_cons.mp hx with rfl | hx
    · have hfirst : (g x).filter (fun y => of y = key x) = g x := by
        apply List.filter_eq_self.mpr
        intro y hy
        simpa using hof x List.mem_cons_self y hy
      have hrest : (l.flatMap g).filter (fun y => of y = key x) = [] := by
        rw [List.filter_eq_nil_iff]
        intro y hy
        obtain ⟨z, hz, hy⟩ := List.mem_flatMap.mp hy
        rw [hofl z hz y hy, decide_eq_true_eq]
        exact fun he => hnd.1 (he ▸ List.mem_map_of_mem hz)
      rw [hfirst, hrest, List.append_nil]
    · have hfirst : (g a).filter (fun y => of y = key x) = [] := by
        rw [List.filter_eq_nil_iff]
        intro y hy
        rw [hof a List.mem_cons_self y hy, decide_eq_true_eq]
        exact fun he => hnd.1 (he ▸ List.mem_map_of_mem hx)
      rw [hfirst, List.nil_append, ih hofl hnd.2 hx]

end Folder

def notedFolder : Folder :=
  .dir ".git".toList (.file "config".toList [] .nil)
    (.dir "lib".toList
      (.file "b.log".toList ["# @TODO rotate\n".toList]
        (.file "b.py".toList ["# @TODO name\n".toList, "# it\n".toList] .nil))
      (.dir "out".toList (.file "c.py".toList ["# @TODO drop\n".toList] .nil)
        (.file "s.c".toList ["// @TODO split\n".toList] .nil)))

def notedMemory : MemoryFiles where
  files := notedFolder.files.map (fun f => (Path.below "/repo".toList f.1, f.2.flatten))
  dirs := ([] :: notedFolder.dirs).map (Path.below "/repo".toList)

def notedPlan : WalkPlan where
  access := notedMemory.access
  patterns :=
    [⟨"*.log".toList, .dirs :: .run :: ".log".toList.map .char, false, false⟩,
      ⟨"out/".toList, .dirs :: "out".toList.map .char, true, false⟩]
  marker := "@TODO".toList

theorem serves_notedFolder :
    notedPlan.access.Serves notedPlan.encoding "/repo".toList notedFolder := by
  have hlist : ∀ dir es, notedMemory.dirs.contains dir = true → notedMemory.found dir = es →
      es.Pairwise (fun a b => a.before b = true) → notedPlan.access.list dir = .ok es :=
    fun dir es hdir => notedMemory.list_of_pairwise rfl hdir rfl
  refine ⟨?_, ⟨?_, ⟨?_, trivial⟩, ?_, ⟨?_, ?_, trivial⟩, ?_, ⟨?_, trivial⟩, ?_, trivial⟩, ?_⟩
  · exact hlist _ _ (by decide) (by decide) (by decide)
  · exact hlist _ _ (by decide) (by decide) (by decide)
  · decide
  · exact hlist _ _ (by decide) (by decide) (by decide)
  · decide
  · decide
  · exact hlist _ _ (by decide) (by decide) (by decide)
  · decide
  · decide
  · decide

/-- A walk returns the tags of the surviving files in the order of their paths. It opens each of
these files once, and lists the root and each directory that is not pruned once. -/
theorem walk_eq_tags (plan : WalkPlan) (root : Text) (d : Folder)
    (hplain : d.AllNames Path.Plain) (hordered : d.Ordered)
    (hserves : plan.access.Serves plan.encoding root d) :
    walk plan root = .ok (d.tags plan.registry plan.patterns plan.marker) ∧
      ((d.survivors plan.patterns).map Prod.fst).Pairwise (· < ·) ∧
      (plan.run root).opened =
        (d.survivors plan.patterns).map (fun f => Path.below root f.1) ∧
      (plan.run root).opened.Nodup ∧
      (plan.run root).listed = ([] :: d.reached plan.patterns).map (Path.below root) ∧
      (plan.run root).listed.Nodup ∧
      ∀ f ∈ d.survivors plan.patterns,
        (d.tags plan.registry plan.patterns plan.marker).filter
          (fun t => t.sourceFile = Path.joined f.1) =
            Folder.fileTags plan.registry plan.marker f := by
  have hfile : ∀ f ∈ d.survivors plan.patterns, f.1 ≠ [] ∧ ∀ n ∈ f.1, Path.Plain n := fun f hf =>
    Folder.names_of_mem_files hplain (List.mem_of_mem_filter hf)
  have hdir : ∀ p ∈ [] :: d.reached plan.patterns, ∀ n ∈ p, Path.Plain n := by
    intro p hp
    rcases List.mem_cons.mp hp with rfl | hp
    · intro n hn
      cases hn
    · exact (Folder.names_of_mem_dirs hplain (List.mem_of_mem_filter hp)).2
  have hsorted := Folder.pairwise_survivors hordered plan.patterns
  have hpaths := Folder.nodup_of_pairwise_lt hsorted
  obtain ⟨hfailure, hopened, hlisted, htags⟩ := WalkPlan.run_of_serves hserves
  rw [plan.kept_of_plain hplain] at hopened htags
  rw [plan.entered_of_plain hplain] at hlisted
  have hresult : (plan.run root).tags = d.tags plan.registry plan.patterns plan.marker := by
    rw [htags]
    apply List.flatMap_congr
    intro f hf
    rw [plan.searchAt_of_plain root (hfile f hf).1 (hfile f hf).2, Folder.fileTags]
  refine ⟨?_, hsorted, hopened, ?_, hlisted, ?_, ?_⟩
  · rw [walk, WalkRun.result, hfailure, hresult]
  · rw [hopened]
    apply Folder.nodup_map_fst hpaths
    exact fun f hf g hg h => Path.below_injective root (hfile f hf).2 (hfile g hg).2 h
  · rw [hlisted]
    apply List.Nodup.map_on _
      (Folder.nodup_of_pairwise_lt (Folder.pairwise_reached hordered plan.patterns))
    exact fun p hp q hq h => Path.below_injective root (hdir p hp) (hdir q hq) h
  · intro f hf
    apply Folder.filter_flatMap_of_nodup (fun f => Path.joined f.1) Tag.sourceFile
      (Folder.fileTags plan.registry plan.marker) _ _ hf
    · exact fun g _ t ht => sourceFile_of_mem_scanLines ht
    · apply Folder.nodup_map_fst hpaths
      exact fun f hf g hg h => Path.joined_injective (hfile f hf).2 (hfile g hg).2 h

theorem walk_eq_tags_notedFolder :
    notedFolder.AllNames Path.Plain ∧ notedFolder.Ordered ∧
      notedPlan.access.Serves notedPlan.encoding "/repo".toList notedFolder ∧
      (walk notedPlan "/repo".toList).map (fun tags => tags.map Tag.title) =
        .ok (["name", "split"].map String.toList) ∧
      (notedPlan.run "/repo".toList).opened =
        ["/repo/lib/b.py", "/repo/s.c"].map String.toList := by
  have hplain : notedFolder.AllNames Path.Plain := by decide
  have hordered : notedFolder.Ordered := by decide
  obtain ⟨hwalk, -, hopened, -⟩ :=
    walk_eq_tags notedPlan "/repo".toList notedFolder hplain hordered serves_notedFolder
  refine ⟨hplain, hordered, serves_notedFolder, ?_, ?_⟩
  · rw [hwalk]
    decide
  · rw [hopened]
    decide

end CommentTags
