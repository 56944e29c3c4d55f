import CommentTags.Proofs.Tag.Origin
import CommentTags.Proofs.Walk.Visit

namespace CommentTags

namespace Path

def above : List Text → List (List Text)
  | [] => []
  | [_] => []
  | name :: rest => [name] :: (above rest).map (fun d => name :: d)

theorem above_cons (name : Text) {names : List Text} (h : names ≠ []) :
    above (name :: names) = [name] :: (above names).map (fun d => name :: d) := by
  cases names with
  | nil => exact absurd rfl h
  | cons n ns => rfl

theorem mem_above {d names : List Text} (h : d ∈ above names) :
    d ≠ [] ∧ ∃ e, e ≠ [] ∧ names = d ++ e := by
  induction names generalizing d with
  | nil => cases h
  | cons n ns ih =>
    by_cases hns : ns = []
    · subst hns
      cases h
    · rw [above_cons n hns] at h
      rcases List.mem_cons.mp h with rfl | h
      · exact ⟨List.cons_ne_nil n [], ns, hns, rfl⟩
      · obtain ⟨d', hd', rfl⟩ := List.mem_map.mp h
        obtain ⟨-, e, he, rfl⟩ := ih hd'
        exact ⟨List.cons_ne_nil n d', e, he, rfl⟩

end Path

namespace WalkPlan

variable (plan : WalkPlan)

def prunesDir (dir : List Text) : Bool := plan.prunes (dir.getLastD []) (Path.below [] dir)

def reaches (path names : List Text) : Bool :=
  (Path.above names).all (fun d => !plan.prunesDir (path ++ d))

theorem prunesDir_append_singleton (path : List Text) (name : Text) :
    plan.prunesDir (path ++ [name]) = plan.prunes name (Path.below [] (path ++ [name])) := by
  simp [prunesDir]

theorem reaches_singleton (path : List Text) (name : Text) : plan.reaches path [name] = true := rfl

theorem reaches_cons (path : List Text) (name : Text) {names : List Text} (h : names ≠ []) :
    plan.reaches path (name :: names) =
      (!plan.prunesDir (path ++ [name]) && plan.reaches (path ++ [name]) names) := by
  simp [reaches, Path.above_cons name h, Function.comp_def]

theorem filter_map_reaches {α β : Type} (path : List Text) (name : Text) (test : List Text → Bool)
    (l : List α) (names : α → List Text) (put : α → β) (names' : β → List Text)
    (hput : ∀ x ∈ l, names' (put x) = name :: names x) (hne : ∀ x ∈ l, names x ≠ []) :
    (l.map put).filter (fun y => plan.reaches path (names' y) && test (path ++ names' y)) =
      if plan.prunesDir (path ++ [name]) then []
      else (l.filter (fun x => plan.reaches (path ++ [name]) (names x) &&
        test (path ++ [name] ++ names x))).map put := by
  -- What is found below a pruned directory is lost, and below another one it counts from there.
  have hstep : ∀ x ∈ l,
      (plan.reaches path (names' (put x)) && test (path ++ names' (put x))) =
        (!plan.prunesDir (path ++ [name]) && (plan.reaches (path ++ [name]) (names x) &&
          test (path ++ [name] ++ names x))) := by
    intro x hx
    rw [hput x hx, plan.reaches_cons path name (hne x hx), Bool.and_assoc, List.append_assoc]
    rfl
  rw [List.filter_map]
  split
  · rename_i hp
    rw [List.filter_eq_nil_iff.mpr]
    · rfl
    · intro x hx
      simp [hstep x hx, hp]
  · rename_i hp
    congr 1
    apply List.filter_congr
    intro x hx
    simp [hstep x hx, hp]

theorem files_visits (path : List Text) (d : Folder) :
    (plan.visits path d).filterMap Visit.file? =
      (d.files.filter (fun f => plan.reaches path f.1 &&
        !isIgnored plan.patterns (Path.below [] (path ++ f.1)) false)).map
          (fun f => (path ++ f.1, f.2)) := by
  induction d generalizing path with
  | nil => rfl
  | file name lines rest ih =>
    rw [visits, List.filterMap_cons, ih, Folder.files, List.filter_cons, reaches_singleton]
    cases isIgnored plan.patterns (Path.below [] (path ++ [name])) false <;> rfl
  | dir name inner rest ihInner ihRest =>
    rw [visits, List.filterMap_append, ihRest, Folder.files, List.filter_append, List.map_append,
      plan.filter_map_reaches path name
        (fun p => !isIgnored plan.patterns (Path.below [] p) false) inner.files Prod.fst
        (fun f => (name :: f.1, f.2)) Prod.fst (fun _ _ => rfl)
        (fun f hf => Folder.ne_nil_of_mem_files hf), ← prunesDir_append_singleton]
    congr 1
    split
    · rfl
    · rw [List.filterMap_cons]
      simpa [Visit.file?, Function.comp_def] using ihInner (path ++ [name])

theorem dirs_visits (path : List Text) (d : Folder) :
    (plan.visits path d).filterMap Visit.dir? =
      (d.dirs.filter (fun p => plan.reaches path p && !plan.prunesDir (path ++ p))).map
        (fun p => path ++ p) := by
  induction d generalizing path with
  | nil => rfl
  | file name lines rest ih =>
    rw [visits, List.filterMap_cons, ih, Folder.dirs]
    cases isIgnored plan.patterns (Path.below [] (path ++ [name])) false <;> rfl
  | dir name inner rest ihInner ihRest =>
    have hbelow := plan.filter_map_reaches path name (fun p => !plan.prunesDir p) inner.dirs id
      (fun p => name :: p) id (fun _ _ => rfl) (fun p hp => Folder.ne_nil_of_mem_dirs hp)
    dsimp only [id] at hbelow
    rw [visits, List.filterMap_append, ihRest, Folder.dirs, List.filter_cons, List.filter_append,
      hbelow, reaches_singleton, ← prunesDir_append_singleton]
    cases hp : plan.prunesDir (path ++ [name]) with
    | true => rfl
    | false =>
      have hinner := ihInner (path ++ [name])
      simp only [Bool.false_eq_true, ↓reduceIte, List.filterMap_cons, Visit.dir?, hinner]
      simp [Function.comp_def]

def kept (d : Folder) : List (List Text × List Text) :=
  d.files.filter (fun f => plan.reaches [] f.1 &&
    !isIgnored plan.patterns (Path.below [] f.1) false)

def entered (d : Folder) : List (List Text) :=
  d.dirs.filter (fun p => plan.reaches [] p && !plan.prunesDir p)

theorem kept_eq (d : Folder) : (plan.visits [] d).filterMap Visit.file? = plan.kept d := by
  simpa [kept] using plan.files_visits [] d

theorem entered_eq (d : Folder) : (plan.visits [] d).filterMap Visit.dir? = plan.entered d := by
  simpa [entered] using plan.dirs_visits [] d

section Serves

variable {plan} {root : Text} {d : Folder}

theorem mem_dirs_of_enter {dir : List Text} (h : .enter dir ∈ plan.visits [] d) :
    dir ∈ d.dirs := by
  have hdir : dir ∈ plan.entered d := by
    rw [← entered_eq]
    exact List.mem_filterMap.mpr ⟨_, h, rfl⟩
  exact List.mem_of_mem_filter hdir

theorem mem_files_of_scan {file lines : List Text} (h : .scan file lines ∈ plan.visits [] d) :
    (file, lines) ∈ d.files := by
  have hfile : (file, lines) ∈ plan.kept d := by
    rw [← kept_eq]
    exact List.mem_filterMap.mpr ⟨_, h, rfl⟩
  exact List.mem_of_mem_filter hfile

theorem perform_of_serves (h : plan.access.Serves plan.encoding root d) {v : Visit}
    (hv : v ∈ .enter [] :: plan.visits [] d) :
    (plan.perform root v).failure = none ∧
      (plan.perform root v).tags =
        v.file?.toList.flatMap (fun f => scanLines (plan.searchAt root f.1) f.2) := by
  cases v with
  | enter dir =>
    have hlist : ∃ es, plan.access.list (Path.below root dir) = .ok es := by
      rcases List.mem_cons.mp hv with hv | hv
      · cases hv
        exact ⟨d.entries, h.listed⟩
      · exact h.held.list (mem_dirs_of_enter hv)
    obtain ⟨es, hes⟩ := hlist
    simp only [perform, hes]
    exact ⟨trivial, rfl⟩
  | prune dir => exact ⟨rfl, rfl⟩
  | skip file => exact ⟨rfl, rfl⟩
  | scan file lines =>
    have hfile : (file, lines) ∈ d.files := by
      rcases List.mem_cons.mp hv with hv | hv
      · cases hv
      · exact mem_files_of_scan hv
    have hread := h.held.read hfile
    simpa [Visit.file?] using plan.perform_scan root file lines hread

theorem run_of_serves (h : plan.access.Serves plan.encoding root d) :
    (plan.run root).failure = none ∧
      (plan.run root).opened = (plan.kept d).map (fun f => Path.below root f.1) ∧
      (plan.run root).listed = ([] :: plan.entered d).map (Path.below root) ∧
      (plan.run root).tags =
        (plan.kept d).flatMap (fun f => scanLines (plan.searchAt root f.1) f.2) := by
  have hlist : ∀ es, plan.access.list root = .ok es → es = d.entries := by
    intro es hes
    rw [h.listed] at hes
    exact (Except.ok.inj hes).symm
  have hdone : ∀ r ∈ (Visit.enter [] :: plan.visits [] d).map (plan.perform root),
      r.failure = none := by
    intro r hr
    obtain ⟨v, hv, rfl⟩ := List.mem_map.mp hr
    exact (perform_of_serves h hv).1
  rw [plan.run_eq root d h.deep hlist h.held.agrees]
  refine ⟨by rw [WalkRun.all_of_completed hdone], ?_, ?_, ?_⟩
  · rw [WalkRun.opened_all hdone, List.flatMap_map, ← kept_eq, List.map_filterMap,
      List.filterMap_eq_flatMap_toList]
    simp only [opened_perform]
    rfl
  · rw [WalkRun.listed_all hdone, List.flatMap_map, List.map_cons, ← entered_eq,
      List.map_filterMap, List.filterMap_eq_flatMap_toList]
    simp only [listed_perform]
    rfl
  · rw [WalkRun.tags_all hdone, List.flatMap_map, ← kept_eq, List.filterMap_eq_flatMap_toList,
      List.flatMap_assoc]
    exact List.flatMap_congr (fun v hv => (perform_of_serves h hv).2)

end Serves

end WalkPlan

end CommentTags
