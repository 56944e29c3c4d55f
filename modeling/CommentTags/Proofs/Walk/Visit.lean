import CommentTags.Proofs.File.Folder
import CommentTags.Walk

namespace CommentTags

inductive Visit where
  | enter (dir : List Text)
  | prune (dir : List Text)
  | skip (file : List Text)
  | scan (file : List Text) (lines : List Text)

namespace Visit

def dir? : Visit → Option (List Text)
  | enter dir => some dir
  | _ => none

def file? : Visit → Option (List Text × List Text)
  | scan file lines => some (file, lines)
  | _ => none

end Visit

namespace WalkRun

theorem all_cons (r : WalkRun) (runs : List WalkRun) : all (r :: runs) = r.andThen (all runs) := rfl

theorem all_append (xs ys : List WalkRun) : all (xs ++ ys) = (all xs).andThen (all ys) := by
  induction xs with
  | nil => exact (nothing_andThen _).symm
  | cons r xs ih => rw [List.cons_append, all_cons, all_cons, ih, andThen_assoc]

theorem all_of_completed {runs : List WalkRun} (h : ∀ r ∈ runs, r.failure = none) :
    all runs = ⟨runs.flatMap events, none⟩ := by
  induction runs with
  | nil => rfl
  | cons r runs ih =>
    have hr := h r List.mem_cons_self
    rw [all_cons, ih (fun x hx => h x (List.mem_cons_of_mem _ hx))]
    simp [andThen, hr]

theorem opened_all {runs : List WalkRun} (h : ∀ r ∈ runs, r.failure = none) :
    (all runs).opened = runs.flatMap opened := by
  rw [all_of_completed h]
  exact List.filterMap_flatMap

theorem listed_all {runs : List WalkRun} (h : ∀ r ∈ runs, r.failure = none) :
    (all runs).listed = runs.flatMap listed := by
  rw [all_of_completed h]
  exact List.filterMap_flatMap

theorem tags_all {runs : List WalkRun} (h : ∀ r ∈ runs, r.failure = none) :
    (all runs).tags = runs.flatMap tags := by
  rw [all_of_completed h]
  exact List.flatMap_assoc

theorem opened_andThen {first : WalkRun} (h : first.failure = none) (second : WalkRun) :
    (first.andThen second).opened = first.opened ++ second.opened := by
  simp [andThen, h, opened]

theorem listed_andThen {first : WalkRun} (h : first.failure = none) (second : WalkRun) :
    (first.andThen second).listed = first.listed ++ second.listed := by
  simp [andThen, h, listed]

theorem tags_andThen {first : WalkRun} (h : first.failure = none) (second : WalkRun) :
    (first.andThen second).tags = first.tags ++ second.tags := by
  simp [andThen, h, tags]

end WalkRun

theorem opened_scanReading (search : Search) (reading : Reading) :
    (scanReading search reading).opened = [] := by
  unfold scanReading
  split <;> simp [WalkRun.opened, WalkEvent.opened?]

theorem listed_scanReading (search : Search) (reading : Reading) :
    (scanReading search reading).listed = [] := by
  unfold scanReading
  split <;> simp [WalkRun.listed, WalkEvent.listed?]

theorem tags_scanReading (search : Search) (lines : List Text) :
    (scanReading search ⟨lines, none⟩).tags = scanLines search lines := by
  simp [scanReading, WalkRun.tags, WalkEvent.tags, List.flatMap_map]

namespace WalkPlan

variable (plan : WalkPlan)

def visits (path : List Text) : Folder → List Visit
  | .nil => []
  | .file name lines rest =>
    (if isIgnored plan.patterns (Path.below [] (path ++ [name])) false then
      .skip (path ++ [name])
    else .scan (path ++ [name]) lines) :: visits path rest
  | .dir name inner rest =>
    (if plan.prunes name (Path.below [] (path ++ [name])) then [.prune (path ++ [name])]
    else .enter (path ++ [name]) :: visits (path ++ [name]) inner) ++ visits path rest

def perform (root : Text) : Visit → WalkRun
  | .enter dir =>
    match plan.access.list (Path.below root dir) with
    | .error failure => ⟨[.listed (Path.below root dir)], some failure⟩
    | .ok _ => ⟨[.listed (Path.below root dir)], none⟩
  | .prune dir => ⟨[.pruned (Path.below [] dir)], none⟩
  | .skip file => ⟨[.skipped (Path.below [] file)], none⟩
  | .scan file _ => plan.scanFile (Path.below root file) (Path.below [] file)

theorem perform_enter_andThen (root : Text) (dir : List Text) (entries : List Entry)
    (h : ∀ es, plan.access.list (Path.below root dir) = .ok es → es = entries)
    (inside : List Entry → WalkRun) :
    (plan.perform root (.enter dir)).andThen (inside entries) =
      match plan.access.list (Path.below root dir) with
      | .error failure => ⟨[.listed (Path.below root dir)], some failure⟩
      | .ok es => (⟨[.listed (Path.below root dir)], none⟩ : WalkRun).andThen (inside es) := by
  simp only [perform]
  cases hl : plan.access.list (Path.below root dir) with
  | error failure => rfl
  | ok es => rw [h es hl]

theorem visitEntries_eq (root : Text) (d : Folder) (depth : ℕ) (path : List Text)
    (hdepth : d.height ≤ depth) (ha : plan.access.Agrees (Path.below root path) d) :
    WalkRun.all (d.entries.map (plan.visitEntry (plan.visitDir depth) (Path.below root path)
      (Path.below [] path))) =
      WalkRun.all ((plan.visits path d).map (plan.perform root)) := by
  induction d generalizing depth path with
  | nil => rfl
  | file name lines rest ih =>
    simp only [Folder.entries, visits, List.map_cons, WalkRun.all_cons]
    rw [ih depth path hdepth ha]
    congr 1
    simp only [visitEntry, Bool.false_eq_true, ↓reduceIte, ← Path.below_append_singleton]
    split <;> rfl
  | dir name inner rest ihInner ihRest =>
    obtain ⟨hlist, hinner, hrest⟩ := ha
    rw [← Path.below_append_singleton] at hlist hinner
    have hheight : inner.height + 1 ≤ depth ∧ rest.height ≤ depth := Nat.max_le.mp hdepth
    -- A directory is there, so the depth is not used up.
    obtain ⟨depth, rfl⟩ : ∃ n, depth = n + 1 := ⟨depth - 1, by omega⟩
    simp only [Folder.entries, visits, List.map_cons, List.map_append, WalkRun.all_cons,
      WalkRun.all_append]
    rw [ihRest (depth + 1) path hheight.2 hrest]
    congr 1
    simp only [visitEntry, ↓reduceIte, ← Path.below_append_singleton]
    split
    · rfl
    · rw [List.map_cons, WalkRun.all_cons, ← ihInner depth (path ++ [name]) (by omega) hinner]
      exact (plan.perform_enter_andThen root (path ++ [name]) inner.entries hlist _).symm

theorem run_eq (root : Text) (d : Folder) (hdepth : d.height < plan.access.depth)
    (hlist : ∀ es, plan.access.list root = .ok es → es = d.entries)
    (ha : plan.access.Agrees root d) :
    plan.run root = WalkRun.all ((.enter [] :: plan.visits [] d).map (plan.perform root)) := by
  obtain ⟨depth, hd⟩ : ∃ n, plan.access.depth = n + 1 := ⟨plan.access.depth - 1, by omega⟩
  have hbelow := plan.visitEntries_eq root d depth [] (by omega) ha
  rw [run, hd, List.map_cons, WalkRun.all_cons, ← hbelow]
  exact (plan.perform_enter_andThen root [] d.entries hlist _).symm

theorem opened_perform (root : Text) (v : Visit) :
    (plan.perform root v).opened = (v.file?.map (fun f => Path.below root f.1)).toList := by
  cases v with
  | enter dir =>
    simp only [perform]
    split <;> rfl
  | prune dir => rfl
  | skip file => rfl
  | scan file lines =>
    simp only [perform, scanFile]
    split
    · rfl
    · rw [WalkRun.opened_andThen rfl, opened_scanReading]
      rfl

theorem listed_perform (root : Text) (v : Visit) :
    (plan.perform root v).listed = (v.dir?.map (Path.below root)).toList := by
  cases v with
  | enter dir =>
    simp only [perform]
    split <;> rfl
  | prune dir => rfl
  | skip file => rfl
  | scan file lines =>
    simp only [perform, scanFile]
    split
    · rfl
    · rw [WalkRun.listed_andThen rfl, listed_scanReading]
      rfl

def searchAt (root : Text) (file : List Text) : Search where
  style := plan.registry.styleOf (Path.extension (Path.below root file))
  marker := plan.marker
  sourceFile := Path.below [] file

theorem perform_scan (root : Text) (file lines : List Text)
    (h : plan.access.read (Path.below root file) plan.encoding = .ok ⟨lines, none⟩) :
    (plan.perform root (.scan file lines)).failure = none ∧
      (plan.perform root (.scan file lines)).tags =
        scanLines (plan.searchAt root file) lines := by
  simp only [perform, scanFile, h]
  refine ⟨rfl, ?_⟩
  rw [WalkRun.tags_andThen rfl, tags_scanReading]
  rfl

end WalkPlan

end CommentTags
