import CommentTags.Proofs.Walk.Result

namespace CommentTags

inductive Call where
  | list (dir : Text)
  | read (file : Text)
deriving DecidableEq, Repr

namespace Call

def file? : Call → Option Text
  | list _ => none
  | read file => some file

end Call

def WalkEvent.call? : WalkEvent → Option Call
  | .listed dir => some (.list dir)
  | .opened file => some (.read file)
  | _ => none

def WalkRun.calls (r : WalkRun) : List Call := r.events.filterMap WalkEvent.call?

namespace FileAccess

def failure? (a : FileAccess) (encoding : Text) : Call → Option Failure
  | .list dir =>
    match a.list dir with
    | .error failure => some failure
    | .ok _ => none
  | .read file =>
    match a.read file encoding with
    | .error failure => some failure
    | .ok reading => reading.failure

/-- The first access is the clean one, but any call to it may fail for reasons of the system. What
has been read of a file before does not matter. -/
structure Faulty (a clean : FileAccess) (encoding : Text) : Prop where
  depth : a.depth = clean.depth
  list : ∀ dir, a.list dir = clean.list dir ∨
    ∃ failure, failure.isSystem = true ∧ a.list dir = .error failure
  read : ∀ file, a.read file encoding = clean.read file encoding ∨
    ∃ failure, failure.isSystem = true ∧ (a.read file encoding = .error failure ∨
      ∃ lines, a.read file encoding = .ok ⟨lines, some failure⟩)

namespace Faulty

variable {a clean : FileAccess} {encoding : Text}

theorem refl (a : FileAccess) (encoding : Text) : a.Faulty a encoding :=
  ⟨rfl, fun _ => .inl rfl, fun _ => .inl rfl⟩

theorem failure?_eq (h : a.Faulty clean encoding) (c : Call) :
    a.failure? encoding c = clean.failure? encoding c ∨
      ∃ failure, failure.isSystem = true ∧ a.failure? encoding c = some failure := by
  cases c with
  | list dir =>
    rcases h.list dir with he | ⟨failure, hsystem, he⟩
    · exact .inl (by simp only [failure?, he])
    · exact .inr ⟨failure, hsystem, by simp only [failure?, he]⟩
  | read file =>
    rcases h.read file with he | ⟨failure, hsystem, he | ⟨lines, he⟩⟩
    · exact .inl (by simp only [failure?, he])
    · exact .inr ⟨failure, hsystem, by simp only [failure?, he]⟩
    · exact .inr ⟨failure, hsystem, by simp only [failure?, he]⟩

theorem isSystem (h : a.Faulty clean encoding) {c : Call} {failure : Failure}
    (hclean : clean.failure? encoding c = none) (hc : a.failure? encoding c = some failure) :
    failure.isSystem = true := by
  rcases h.failure?_eq c with he | ⟨failure', hsystem, he⟩
  · rw [he, hclean] at hc
    cases hc
  · rw [he] at hc
    cases hc
    exact hsystem

theorem list_eq (h : a.Faulty clean encoding) {dir : Text}
    (hc : a.failure? encoding (.list dir) = none) : a.list dir = clean.list dir := by
  rcases h.list dir with he | ⟨failure, -, he⟩
  · exact he
  · simp [failure?, he] at hc

theorem read_eq (h : a.Faulty clean encoding) {file : Text}
    (hc : a.failure? encoding (.read file) = none) :
    a.read file encoding = clean.read file encoding := by
  rcases h.read file with he | ⟨failure, -, he | ⟨lines, he⟩⟩
  · exact he
  · simp [failure?, he] at hc
  · simp [failure?, he] at hc

theorem eq_of_list (h : a.Faulty clean encoding) {dir : Text} {es es' : List Entry}
    (hclean : clean.list dir = .ok es) (hl : a.list dir = .ok es') : es' = es := by
  rw [h.list_eq (by simp only [failure?, hl]), hclean] at hl
  exact (Except.ok.inj hl).symm

theorem agrees (h : a.Faulty clean encoding) {dir : Text} {d : Folder}
    (hd : clean.Holds encoding dir d) : a.Agrees dir d := by
  induction d generalizing dir with
  | nil => exact trivial
  | file name lines rest ih => exact ih hd.2
  | dir name inner rest ihInner ihRest =>
    exact ⟨fun es hes => h.eq_of_list hd.1 hes, ihInner hd.2.1, ihRest hd.2.2⟩

end Faulty

end FileAccess

namespace WalkRun

theorem calls_andThen {first : WalkRun} (h : first.failure = none) (second : WalkRun) :
    (first.andThen second).calls = first.calls ++ second.calls := by
  simp [andThen, h, calls]

theorem andThen_of_failed {first : WalkRun} {failure : Failure}
    (h : first.failure = some failure) (second : WalkRun) : first.andThen second = first := by
  simp [andThen, h]

theorem all_of_failed {before : List WalkRun} (hb : ∀ r ∈ before, r.failure = none)
    {last : WalkRun} {failure : Failure} (hl : last.failure = some failure)
    (after : List WalkRun) :
    all (before ++ last :: after) = ⟨before.flatMap events ++ last.events, some failure⟩ := by
  rw [all_append, all_cons, andThen_of_failed hl, all_of_completed hb]
  simp [andThen, hl]

theorem result_of_system {r : WalkRun} (root : Text) {failure : Failure}
    (h : r.failure = some failure) (hsystem : failure.isSystem = true) :
    ∃ path, r.result root = .error (.aborted ⟨path, failure, r.tags⟩) := by
  refine ⟨failure.path?.getD (r.opened.getLast?.getD root), ?_⟩
  simp only [result, h, hsystem, ↓reduceIte]

end WalkRun

theorem calls_scanReading (search : Search) (reading : Reading) :
    (scanReading search reading).calls = [] := by
  unfold scanReading
  split <;> simp [WalkRun.calls, WalkEvent.call?]

theorem failure_scanReading (search : Search) (reading : Reading) :
    (scanReading search reading).failure = reading.failure := by
  unfold scanReading
  split <;> simp_all

theorem tags_scanReading_of_failure (search : Search) {reading : Reading} {failure : Failure}
    (h : reading.failure = some failure) : (scanReading search reading).tags = [] := by
  simp [scanReading, h, WalkRun.tags, WalkEvent.tags, List.flatMap_map]

namespace Visit

def call? (root : Text) : Visit → Option Call
  | enter dir => some (.list (Path.below root dir))
  | scan file _ => some (.read (Path.below root file))
  | _ => none

theorem file?_of_call? (root : Text) (v : Visit) :
    (v.call? root).bind Call.file? = v.file?.map (fun f => Path.below root f.1) := by
  cases v <;> rfl

end Visit

namespace WalkPlan

variable (plan : WalkPlan)

def withAccess (a : FileAccess) : WalkPlan := { plan with access := a }

theorem visits_withAccess (a : FileAccess) (path : List Text) (d : Folder) :
    (plan.withAccess a).visits path d = plan.visits path d := by
  induction d generalizing path with
  | nil => rfl
  | file name lines rest ih => rw [visits, visits, ih]; rfl
  | dir name inner rest ihInner ihRest => rw [visits, visits, ihInner, ihRest]; rfl

theorem calls_scanFile (path sourceFile : Text) :
    (plan.scanFile path sourceFile).calls = [.read path] := by
  unfold scanFile
  split
  · rfl
  · rw [WalkRun.calls_andThen rfl, calls_scanReading]
    rfl

theorem failure_scanFile (path sourceFile : Text) :
    (plan.scanFile path sourceFile).failure =
      plan.access.failure? plan.encoding (.read path) := by
  simp only [scanFile, FileAccess.failure?]
  cases plan.access.read path plan.encoding with
  | error failure => rfl
  | ok reading => exact failure_scanReading _ reading

theorem calls_perform (root : Text) (v : Visit) :
    (plan.perform root v).calls = (v.call? root).toList := by
  cases v with
  | enter dir =>
    simp only [perform]
    split <;> rfl
  | prune dir => rfl
  | skip file => rfl
  | scan file lines => exact plan.calls_scanFile _ _

theorem failure_perform (root : Text) (v : Visit) :
    (plan.perform root v).failure =
      (v.call? root).bind (plan.access.failure? plan.encoding) := by
  cases v with
  | enter dir =>
    simp only [perform, Visit.call?, Option.bind_some, FileAccess.failure?]
    cases plan.access.list (Path.below root dir) <;> rfl
  | prune dir => rfl
  | skip file => rfl
  | scan file lines => exact plan.failure_scanFile _ _

theorem failure_perform_of_calls {root : Text} {vs : List Visit}
    (h : ∀ c ∈ vs.filterMap (Visit.call? root), plan.access.failure? plan.encoding c = none) :
    ∀ v ∈ vs, (plan.perform root v).failure = none := by
  intro v hv
  rw [failure_perform]
  cases hc : v.call? root with
  | none => rfl
  | some c => exact h c (List.mem_filterMap.mpr ⟨v, hv, hc⟩)

theorem tags_perform_of_failure {root : Text} {v : Visit} {failure : Failure}
    (h : (plan.perform root v).failure = some failure) : (plan.perform root v).tags = [] := by
  cases v with
  | enter dir =>
    simp only [perform]
    split <;> rfl
  | prune dir => rfl
  | skip file => rfl
  | scan file lines =>
    rw [failure_perform] at h
    simp only [Visit.call?, Option.bind_some, FileAccess.failure?] at h
    simp only [perform, scanFile]
    split
    · rfl
    · rename_i reading hread
      rw [hread] at h
      rw [WalkRun.tags_andThen rfl, tags_scanReading_of_failure _ h]
      rfl

section Faulty

variable {plan} {clean : FileAccess} {root : Text} {d : Folder}

theorem perform_of_faulty (hfaulty : plan.access.Faulty clean plan.encoding) {v : Visit}
    (h : (plan.perform root v).failure = none) :
    plan.perform root v = (plan.withAccess clean).perform root v := by
  rw [failure_perform] at h
  cases v with
  | enter dir => simp only [perform, withAccess, hfaulty.list_eq h]
  | prune dir => rfl
  | skip file => rfl
  | scan file lines => simp only [perform, scanFile, withAccess, hfaulty.read_eq h]

theorem run_of_faulty (hfaulty : plan.access.Faulty clean plan.encoding)
    (hserves : clean.Serves plan.encoding root d) :
    plan.run root =
      WalkRun.all ((.enter [] :: plan.visits [] d).map (plan.perform root)) := by
  apply plan.run_eq root d
  · rw [hfaulty.depth]
    exact hserves.deep
  · exact fun es hes => hfaulty.eq_of_list hserves.listed hes
  · exact hfaulty.agrees hserves.held

theorem calls_of_serves (hserves : plan.access.Serves plan.encoding root d) :
    (plan.run root).calls =
      (Visit.enter [] :: plan.visits [] d).filterMap (Visit.call? root) := by
  have hdone : ∀ r ∈ (Visit.enter [] :: plan.visits [] d).map (plan.perform root),
      r.failure = none := by
    intro r hr
    obtain ⟨v, hv, rfl⟩ := List.mem_map.mp hr
    exact (perform_of_serves hserves hv).1
  rw [run_of_faulty (.refl plan.access plan.encoding) hserves, WalkRun.all_of_completed hdone,
    WalkRun.calls, List.flatMap_map, List.filterMap_flatMap, List.filterMap_eq_flatMap_toList]
  exact List.flatMap_congr (fun v _ => plan.calls_perform root v)

theorem serves_withAccess (hserves : clean.Serves plan.encoding root d) :
    (plan.withAccess clean).access.Serves (plan.withAccess clean).encoding root d := hserves

theorem tags_of_performed (hfaulty : plan.access.Faulty clean plan.encoding)
    (hserves : clean.Serves plan.encoding root d) {vs : List Visit}
    (hvs : vs ⊆ .enter [] :: plan.visits [] d)
    (hdone : ∀ v ∈ vs, (plan.perform root v).failure = none) :
    (vs.flatMap (fun v => (plan.perform root v).tags)) =
      (vs.filterMap Visit.file?).flatMap (fun f => scanLines (plan.searchAt root f.1) f.2) := by
  rw [List.filterMap_eq_flatMap_toList, List.flatMap_assoc]
  apply List.flatMap_congr
  intro v hv
  have hvisit : v ∈ .enter [] :: (plan.withAccess clean).visits [] d := by
    rw [visits_withAccess]
    exact hvs hv
  rw [perform_of_faulty hfaulty (hdone v hv)]
  exact (perform_of_serves (serves_withAccess hserves) hvisit).2

theorem run_of_first_failure (hfaulty : plan.access.Faulty clean plan.encoding)
    (hserves : clean.Serves plan.encoding root d) {front rest : List Visit} {v : Visit}
    (hvs : .enter [] :: plan.visits [] d = front ++ v :: rest)
    (hfront : ∀ u ∈ front, (plan.perform root u).failure = none) {failure : Failure}
    (hv : (plan.perform root v).failure = some failure) :
    (plan.run root).failure = some failure ∧
      (plan.run root).calls =
        front.filterMap (Visit.call? root) ++ (v.call? root).toList ∧
      (plan.run root).tags =
        (front.filterMap Visit.file?).flatMap
          (fun f => scanLines (plan.searchAt root f.1) f.2) := by
  have hdone : ∀ r ∈ front.map (plan.perform root), r.failure = none := by
    intro r hr
    obtain ⟨u, hu, rfl⟩ := List.mem_map.mp hr
    exact hfront u hu
  have hrun := run_of_faulty hfaulty hserves
  rw [hvs, List.map_append, List.map_cons, WalkRun.all_of_failed hdone hv] at hrun
  rw [hrun]
  refine ⟨rfl, ?_, ?_⟩
  · rw [WalkRun.calls, List.filterMap_append, List.flatMap_map, List.filterMap_flatMap,
      List.filterMap_eq_flatMap_toList (Visit.call? root)]
    congr 1
    · exact List.flatMap_congr (fun u _ => plan.calls_perform root u)
    · exact plan.calls_perform root v
  · have hlast : (plan.perform root v).events.flatMap WalkEvent.tags = [] :=
      plan.tags_perform_of_failure hv
    rw [WalkRun.tags, List.flatMap_append, hlast, List.append_nil, List.flatMap_map,
      List.flatMap_assoc]
    exact tags_of_performed hfaulty hserves (hvs ▸ List.subset_append_left _ _) hfront

end Faulty

end WalkPlan

/-- The first call of the whole walk that fails ends the walk. No call is made after it, and the
tags found are those of the files that were read to their ends before. Where no call fails, the
walk is the whole one. -/
theorem walk_of_faulty (plan : WalkPlan) (clean : FileAccess) (root : Text) (d : Folder)
    (hserves : clean.Serves plan.encoding root d)
    (hfaulty : plan.access.Faulty clean plan.encoding) :
    let whole := (plan.withAccess clean).run root
    let fails := plan.access.failure? plan.encoding
    walk (plan.withAccess clean) root = .ok whole.tags ∧
      ((∀ c ∈ whole.calls, fails c = none) →
        (plan.run root).calls = whole.calls ∧ walk plan root = .ok whole.tags) ∧
      ∀ before c after failure, whole.calls = before ++ c :: after →
        (∀ b ∈ before, fails b = none) → fails c = some failure →
        (plan.run root).calls = before ++ [c] ∧
          ∃ completed later path partialTags,
            walk plan root = .error (.aborted ⟨path, failure, partialTags⟩) ∧
            plan.kept d = completed ++ later ∧
            before.filterMap Call.file? = completed.map (fun f => Path.below root f.1) ∧
            partialTags =
              completed.flatMap (fun f => scanLines (plan.searchAt root f.1) f.2) ∧
            partialTags <+: whole.tags := by
  intro whole fails
  have hclean := WalkPlan.serves_withAccess hserves
  obtain ⟨hwhole, -, -, htags⟩ := WalkPlan.run_of_serves hclean
  have hcalls : whole.calls =
      (Visit.enter [] :: plan.visits [] d).filterMap (Visit.call? root) := by
    rw [← plan.visits_withAccess clean]
    exact WalkPlan.calls_of_serves hclean
  refine ⟨by rw [walk, WalkRun.result, hwhole], ?_, ?_⟩
  · intro hnone
    have hdone := plan.failure_perform_of_calls (hcalls ▸ hnone)
    have hsame : plan.run root = whole := by
      rw [WalkPlan.run_of_faulty hfaulty hserves,
        List.map_congr_left (fun v hv => WalkPlan.perform_of_faulty hfaulty (hdone v hv)),
        ← plan.visits_withAccess clean]
      exact (WalkPlan.run_of_faulty (.refl _ _) hclean).symm
    rw [walk, WalkRun.result, hsame, hwhole]
    exact ⟨rfl, rfl⟩
  · intro before c after failure hsplit hbefore hc
    -- The visits that make the calls before the failing one, and those behind them without calls.
    obtain ⟨vs, ws, hvs, rfl, hws⟩ := List.filterMap_eq_append_iff.mp (hcalls.symm.trans hsplit)
    obtain ⟨quiet, v, rest, rfl, hquiet, hv, -⟩ := List.filterMap_eq_cons_iff.mp hws
    have hfront : (vs ++ quiet).filterMap (Visit.call? root) =
        vs.filterMap (Visit.call? root) := by
      rw [List.filterMap_append, List.filterMap_eq_nil_iff.mpr hquiet, List.append_nil]
    rw [← List.append_assoc] at hvs
    rw [← hfront] at hbefore ⊢
    have hfails : (plan.perform root v).failure = some failure := by
      rw [plan.failure_perform, hv]
      exact hc
    obtain ⟨hfailure, hmade, hfound⟩ := WalkPlan.run_of_first_failure hfaulty hserves hvs
      (plan.failure_perform_of_calls hbefore) hfails
    rw [hv] at hmade
    have hmem : v ∈ .enter [] :: (plan.withAccess clean).visits [] d := by
      rw [plan.visits_withAccess, hvs]
      exact List.mem_append_right _ List.mem_cons_self
    have hgood : clean.failure? plan.encoding c = none := by
      have hdone := (WalkPlan.perform_of_serves hclean hmem).1
      rw [WalkPlan.failure_perform, hv] at hdone
      exact hdone
    have hkept : plan.kept d =
        (vs ++ quiet).filterMap Visit.file? ++ (v :: rest).filterMap Visit.file? := by
      rw [← List.filterMap_append, ← hvs, ← plan.kept_eq]
      rfl
    have hwholeTags : whole.tags =
        (plan.kept d).flatMap (fun f => scanLines (plan.searchAt root f.1) f.2) := htags
    obtain ⟨path, hwalk⟩ :=
      WalkRun.result_of_system root hfailure (hfaulty.isSystem hgood hc)
    refine ⟨hmade, _, _, path, _, hwalk, hkept, ?_, hfound, ?_⟩
    · rw [List.filterMap_filterMap, List.map_filterMap]
      exact List.filterMap_congr (fun u _ => Visit.file?_of_call? root u)
    · rw [hfound, hwholeTags, hkept, List.flatMap_append]
      exact List.prefix_append _ _

def tornPlan : WalkPlan :=
  notedPlan.withAccess { notedPlan.access with
    read := fun path encoding =>
      if path = "/repo/s.c".toList then
        .ok ⟨["// @TODO split\n".toList], some (.system 5 "Input/output error".toList none)⟩
      else notedPlan.access.read path encoding }

theorem faulty_tornPlan : tornPlan.access.Faulty notedPlan.access tornPlan.encoding := by
  refine ⟨rfl, fun _ => .inl rfl, ?_⟩
  intro file
  by_cases hfile : file = "/repo/s.c".toList
  · exact .inr ⟨.system 5 "Input/output error".toList none, rfl, .inr ⟨_, if_pos hfile⟩⟩
  · exact .inl (if_neg hfile)

theorem walk_of_faulty_tornPlan :
    let before : List Call := [.list "/repo".toList, .list "/repo/lib".toList,
      .read "/repo/lib/b.py".toList]
    let last : Call := .read "/repo/s.c".toList
    let failure : Failure := .system 5 "Input/output error".toList none
    notedPlan.access.Serves tornPlan.encoding "/repo".toList notedFolder ∧
      tornPlan.access.Faulty notedPlan.access tornPlan.encoding ∧
      (notedPlan.run "/repo".toList).calls = before ++ [last] ∧
      (∀ c ∈ before, tornPlan.access.failure? tornPlan.encoding c = none) ∧
      tornPlan.access.failure? tornPlan.encoding last = some failure ∧
      (tornPlan.run "/repo".toList).calls = before ++ [last] ∧
      ∃ path partialTags, walk tornPlan "/repo".toList =
          .error (.aborted ⟨path, failure, partialTags⟩) ∧
        partialTags.map Tag.title = ["name".toList] := by
  intro before last failure
  have hcalls : (notedPlan.run "/repo".toList).calls = before ++ [last] := by
    rw [WalkPlan.calls_of_serves serves_notedFolder]
    decide
  have hlisted : ∀ dir, (∃ es, notedPlan.access.list dir = .ok es) →
      tornPlan.access.failure? tornPlan.encoding (.list dir) = none := by
    rintro dir ⟨es, hes⟩
    have hes : tornPlan.access.list dir = .ok es := hes
    simp only [FileAccess.failure?, hes]
  have hbefore : ∀ c ∈ before, tornPlan.access.failure? tornPlan.encoding c = none := by
    intro c hc
    simp only [before, List.mem_cons, List.not_mem_nil, or_false] at hc
    rcases hc with rfl | rfl | rfl
    · exact hlisted _ ⟨_, serves_notedFolder.listed⟩
    · have hlib : ["lib".toList] ∈ notedFolder.dirs := by decide
      exact hlisted _ (serves_notedFolder.held.list hlib)
    · decide
  have hlast : tornPlan.access.failure? tornPlan.encoding last = some failure := by decide
  obtain ⟨-, -, hfailed⟩ := walk_of_faulty tornPlan notedPlan.access "/repo".toList notedFolder
    serves_notedFolder faulty_tornPlan
  obtain ⟨hmade, completed, later, path, partialTags, hwalk, hkept, hfiles, htags, -⟩ :=
    hfailed before last [] failure hcalls hbefore hlast
  refine ⟨serves_notedFolder, faulty_tornPlan, hcalls, hbefore, hlast, hmade, path, partialTags,
    hwalk, ?_⟩
  have hcompleted : completed = (tornPlan.kept notedFolder).take 1 := by
    rw [hkept, List.take_left']
    have hlength := congrArg List.length hfiles
    rwa [List.length_map, eq_comm] at hlength
  rw [htags, hcompleted]
  decide

end CommentTags
