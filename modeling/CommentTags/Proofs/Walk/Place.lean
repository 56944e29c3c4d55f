import CommentTags.Proofs.Walk.Errors

namespace CommentTags

namespace WalkRun

variable {access : FileAccess} {encoding : Text}

structure Stops (access : FileAccess) (encoding : Text) (r : WalkRun) : Prop where
  completed : r.failure = none → ∀ c ∈ r.calls, access.failure? encoding c = none
  failed : ∀ f, r.failure = some f → ∃ before c, r.calls = before ++ [c] ∧
    (∀ b ∈ before, access.failure? encoding b = none) ∧ access.failure? encoding c = some f

theorem Stops.andThen {first second : WalkRun} (hfirst : first.Stops access encoding)
    (hsecond : second.Stops access encoding) : (first.andThen second).Stops access encoding := by
  cases hdone : first.failure with
  | some failure =>
    rw [andThen_of_failed hdone]
    exact hfirst
  | none =>
    have hcalls := calls_andThen hdone second
    have hfailure := failure_andThen hdone second
    have hgood := hfirst.completed hdone
    refine ⟨fun h c hc => ?_, fun f h => ?_⟩
    · rw [hfailure] at h
      rw [hcalls] at hc
      exact (List.mem_append.mp hc).elim (hgood c) (hsecond.completed h c)
    · rw [hfailure] at h
      obtain ⟨before, c, hsplit, hbefore, hc⟩ := hsecond.failed f h
      refine ⟨first.calls ++ before, c, ?_, ?_, hc⟩
      · rw [hcalls, hsplit, List.append_assoc]
      · exact fun b hb => (List.mem_append.mp hb).elim (hgood b) (hbefore b)

theorem stops_all {runs : List WalkRun} (h : ∀ r ∈ runs, r.Stops access encoding) :
    (all runs).Stops access encoding := by
  induction runs with
  | nil =>
    refine ⟨fun _ c hc => ?_, fun f hf => ?_⟩
    · cases hc
    · cases hf
  | cons r runs ih =>
    exact (h r List.mem_cons_self).andThen (ih (fun x hx => h x (List.mem_cons_of_mem r hx)))

theorem opened_eq_calls (r : WalkRun) : r.opened = r.calls.filterMap Call.file? := by
  rw [opened, calls, List.filterMap_filterMap]
  refine List.filterMap_congr (fun e _ => ?_)
  cases e <;> rfl

theorem result_of_failed {r : WalkRun} (root : Text) {failure : Failure}
    (h : r.failure = some failure) (hsystem : failure.isSystem = true) :
    r.result root = .error (.aborted
      ⟨failure.path?.getD ((r.calls.filterMap Call.file?).getLast?.getD root), failure,
        r.tags⟩) := by
  simp only [result, h, hsystem, if_true, opened_eq_calls]

theorem path_of_result_eq {r : WalkRun} {root : Text} {e : ScanAborted}
    (h : r.result root = .error (.aborted e)) :
    r.failure = some e.failure ∧
      e.path = e.failure.path?.getD ((r.calls.filterMap Call.file?).getLast?.getD root) := by
  cases hfailure : r.failure with
  | none =>
    simp only [result, hfailure] at h
    cases h
  | some failure =>
    cases hsystem : failure.isSystem with
    | true =>
      rw [result_of_failed root hfailure hsystem] at h
      cases h
      exact ⟨rfl, rfl⟩
    | false =>
      simp only [result, hfailure, hsystem] at h
      cases h

end WalkRun

namespace WalkPlan

variable (plan : WalkPlan) {clean : FileAccess} {root : Text} {d : Folder}

theorem stops_perform (root : Text) (v : Visit) :
    (plan.perform root v).Stops plan.access plan.encoding := by
  have hcalls := plan.calls_perform root v
  have hfailure := plan.failure_perform root v
  cases hv : v.call? root with
  | none =>
    rw [hv] at hcalls hfailure
    refine ⟨fun _ c hc => ?_, fun f hf => ?_⟩
    · rw [hcalls] at hc
      cases hc
    · rw [hfailure] at hf
      cases hf
  | some call =>
    rw [hv] at hcalls hfailure
    have hcall : (plan.perform root v).failure = plan.access.failure? plan.encoding call := hfailure
    refine ⟨fun hdone c hc => ?_, fun f hf => ⟨[], call, hcalls, by simp, hcall ▸ hf⟩⟩
    rw [hcalls] at hc
    rw [List.mem_singleton.mp hc, ← hcall, hdone]

variable {plan}

theorem stops_run (hfaulty : plan.access.Faulty clean plan.encoding)
    (hserves : clean.Serves plan.encoding root d) :
    (plan.run root).Stops plan.access plan.encoding := by
  rw [run_of_faulty hfaulty hserves]
  apply WalkRun.stops_all
  intro r hr
  obtain ⟨v, -, rfl⟩ := List.mem_map.mp hr
  exact plan.stops_perform root v

def AsksBelow (root : Text) (d : Folder) (c : Call) : Prop :=
  (∃ p ∈ d.dirs, c = .list (Path.below root p)) ∨ ∃ f ∈ d.files, c = .read (Path.below root f.1)

theorem asksBelow_of_visit {v : Visit} (hv : v ∈ plan.visits [] d) {c : Call}
    (hc : v.call? root = some c) : AsksBelow root d c := by
  cases v with
  | enter dir => exact .inl ⟨dir, mem_dirs_of_enter hv, (Option.some.inj hc).symm⟩
  | prune dir => cases hc
  | skip file => cases hc
  | scan file lines => exact .inr ⟨_, mem_files_of_scan hv, (Option.some.inj hc).symm⟩

theorem calls_run_eq_cons (hfaulty : plan.access.Faulty clean plan.encoding)
    (hserves : clean.Serves plan.encoding root d) :
    ∃ more, (plan.run root).calls = .list root :: more ∧ ∀ c ∈ more, AsksBelow root d c := by
  have hroot : (plan.perform root (.enter [])).calls = [.list root] :=
    plan.calls_perform root (.enter [])
  have hbelow : ∀ c ∈ (WalkRun.all ((plan.visits [] d).map (plan.perform root))).calls,
      AsksBelow root d c := by
    intro c hc
    obtain ⟨r, hr, hc⟩ := WalkRun.mem_calls_all hc
    obtain ⟨v, hv, rfl⟩ := List.mem_map.mp hr
    rw [plan.calls_perform, Option.mem_toList] at hc
    exact asksBelow_of_visit hv hc
  rw [run_of_faulty hfaulty hserves, List.map_cons, WalkRun.all_cons]
  cases hdone : (plan.perform root (.enter [])).failure with
  | some failure =>
    rw [WalkRun.andThen_of_failed hdone]
    exact ⟨[], hroot, by simp⟩
  | none =>
    rw [WalkRun.calls_andThen hdone, hroot]
    exact ⟨_, rfl, hbelow⟩

section Places

variable (hplain : d.AllNames Path.Plain)

include hplain

theorem below_dir_ne_root {p : List Text} (hp : p ∈ d.dirs) : Path.below root p ≠ root := by
  obtain ⟨hne, hp⟩ := Folder.names_of_mem_dirs hplain hp
  exact fun h => hne (Path.below_injective root hp (q := []) (by simp) h)

theorem below_file_ne_below_dir (hapart : ∀ f ∈ d.files, f.1 ∉ d.dirs)
    {f : List Text × List Text} (hf : f ∈ d.files) {p : List Text} (hp : p ∈ d.dirs) :
    Path.below root f.1 ≠ Path.below root p := by
  intro h
  have hpath := Path.below_injective root (Folder.names_of_mem_files hplain hf).2
    (Folder.names_of_mem_dirs hplain hp).2 h
  exact hapart f hf (hpath ▸ hp)

theorem lastFile_ne_below_dir (hapart : ∀ f ∈ d.files, f.1 ∉ d.dirs) {calls : List Call}
    (hcalls : ∀ c ∈ calls, c = .list root ∨ AsksBelow root d c) {p : List Text}
    (hp : p ∈ d.dirs) :
    (calls.filterMap Call.file?).getLast?.getD root ≠ Path.below root p := by
  cases hlast : (calls.filterMap Call.file?).getLast? with
  | none => exact (below_dir_ne_root hplain hp).symm
  | some file =>
    obtain ⟨c, hc, hfile⟩ := List.mem_filterMap.mp (List.mem_of_getLast? hlast)
    rcases hcalls c hc with rfl | ⟨q, -, rfl⟩ | ⟨f, hf, rfl⟩
    · cases hfile
    · cases hfile
    · cases hfile
      exact below_file_ne_below_dir hplain hapart hf hp

theorem eq_nil_of_list_root {before more : List Call}
    (hmore : before ++ [.list root] = .list root :: more)
    (hbelow : ∀ c ∈ more, AsksBelow root d c) : before = [] := by
  cases before with
  | nil => rfl
  | cons b before =>
    have hagain : .list root ∈ more := by
      rw [← (List.cons.inj hmore).2]
      exact List.mem_append_right _ (List.mem_singleton_self _)
    rcases hbelow _ hagain with ⟨p, hp, hdir⟩ | ⟨f, -, hread⟩
    · exact absurd (Call.list.inj hdir).symm (below_dir_ne_root hplain hp)
    · cases hread

end Places

end WalkPlan

/-- A walk that the system cuts short ends with the first call that fails. It names the path that
came with the failure, and else the last file that it opened or, before any file, the root. That is
the path of the call if the call reads a file or lists the root, and otherwise it never is. -/
theorem walk_aborted_path (plan : WalkPlan) (clean : FileAccess) (root : Text) (d : Folder)
    (hplain : d.AllNames Path.Plain) (hapart : ∀ f ∈ d.files, f.1 ∉ d.dirs)
    (hserves : clean.Serves plan.encoding root d)
    (hfaulty : plan.access.Faulty clean plan.encoding) (e : ScanAborted)
    (haborted : walk plan root = .error (.aborted e)) :
    let fails := plan.access.failure? plan.encoding
    ∃ before c, (plan.run root).calls = before ++ [c] ∧
      (∀ b ∈ before, fails b = none) ∧ fails c = some e.failure ∧
      (∀ path, e.failure.path? = some path → e.path = path) ∧
      (e.failure.path? = none →
        e.path = ((before ++ [c]).filterMap Call.file?).getLast?.getD root ∧
        (e.path = c.path ↔ c = .read c.path ∨ c = .list root)) := by
  intro fails
  obtain ⟨hfailure, hpath⟩ := WalkRun.path_of_result_eq haborted
  obtain ⟨before, c, hcalls, hbefore, hc⟩ :=
    (WalkPlan.stops_run hfaulty hserves).failed e.failure hfailure
  obtain ⟨more, hmore, hbelow⟩ := WalkPlan.calls_run_eq_cons hfaulty hserves
  rw [hcalls] at hpath hmore
  have hknown : ∀ x ∈ before ++ [c], x = .list root ∨ WalkPlan.AsksBelow root d x := by
    intro x hx
    rw [hmore] at hx
    exact (List.mem_cons.mp hx).imp_right (hbelow x)
  refine ⟨before, c, hcalls, hbefore, hc, ?_, ?_⟩
  · intro path h
    rw [hpath, h]
    rfl
  intro hnone
  rw [hnone] at hpath
  refine ⟨hpath, ?_⟩
  cases c with
  | read file => simp [hpath, Call.path, Call.file?]
  | list dir =>
    rcases hknown (.list dir) (by simp) with hroot | ⟨p, hp, hdir⟩ | ⟨f, -, hread⟩
    · obtain rfl := Call.list.inj hroot
      have hfirst := WalkPlan.eq_nil_of_list_root hplain hmore hbelow
      rw [hfirst] at hpath
      exact iff_of_true hpath (.inr rfl)
    · obtain rfl := Call.list.inj hdir
      refine iff_of_false ?_ ?_
      · rw [hpath]
        exact WalkPlan.lastFile_ne_below_dir hplain hapart hknown hp
      · rintro (h | h)
        · cases h
        · exact WalkPlan.below_dir_ne_root hplain hp (Call.list.inj h)
    · cases hread

def unnamedFailure : Failure := .system 5 "Input/output error".toList none

def lockedPlan : WalkPlan where
  access := { notedPlan.access with
    list := fun dir =>
      if dir = "/repo/out".toList then .error unnamedFailure else notedPlan.access.list dir }
  marker := "@TODO".toList

theorem faulty_lockedPlan : lockedPlan.access.Faulty notedPlan.access lockedPlan.encoding := by
  refine ⟨rfl, fun dir => ?_, fun _ => .inl rfl⟩
  by_cases hdir : dir = "/repo/out".toList
  · exact .inr ⟨unnamedFailure, rfl, if_pos hdir⟩
  · exact .inl (if_neg hdir)

theorem failure?_lockedPlan {dir : Text} (hdir : dir ≠ "/repo/out".toList)
    (hlisted : ∃ es, notedPlan.access.list dir = .ok es) :
    lockedPlan.access.failure? lockedPlan.encoding (.list dir) = none := by
  obtain ⟨es, hes⟩ := hlisted
  have hes : lockedPlan.access.list dir = .ok es := (if_neg hdir).trans hes
  simp only [FileAccess.failure?, hes]

theorem run_lockedPlan :
    (lockedPlan.run "/repo".toList).failure = some unnamedFailure ∧
      (lockedPlan.run "/repo".toList).calls =
        [.list "/repo".toList, .list "/repo/lib".toList, .read "/repo/lib/b.log".toList,
          .read "/repo/lib/b.py".toList, .list "/repo/out".toList] := by
  have hfails : lockedPlan.access.failure? lockedPlan.encoding (.list "/repo/out".toList) =
      some unnamedFailure := by decide
  let front : List Visit := [.enter [], .prune [".git".toList], .enter ["lib".toList],
    .scan ["lib".toList, "b.log".toList] ["# @TODO rotate\n".toList],
    .scan ["lib".toList, "b.py".toList] ["# @TODO name\n".toList, "# it\n".toList]]
  have hfront : ∀ c ∈ front.filterMap (Visit.call? "/repo".toList),
      lockedPlan.access.failure? lockedPlan.encoding c = none := by
    have hlib : ["lib".toList] ∈ notedFolder.dirs := by decide
    have hcalls : front.filterMap (Visit.call? "/repo".toList) =
        [.list "/repo".toList, .list "/repo/lib".toList, .read "/repo/lib/b.log".toList,
          .read "/repo/lib/b.py".toList] := rfl
    intro c hc
    rw [hcalls] at hc
    simp only [List.mem_cons, List.not_mem_nil, or_false] at hc
    rcases hc with rfl | rfl | rfl | rfl
    · exact failure?_lockedPlan (by decide) ⟨_, serves_notedFolder.listed⟩
    · exact failure?_lockedPlan (by decide) (serves_notedFolder.held.list hlib)
    · decide
    · decide
  have hvisits : .enter [] :: lockedPlan.visits [] notedFolder =
      front ++ .enter ["out".toList] ::
        [.scan ["out".toList, "c.py".toList] ["# @TODO drop\n".toList],
          .scan ["s.c".toList] ["// @TODO split\n".toList]] := rfl
  obtain ⟨hfailure, hcalls, -⟩ := WalkPlan.run_of_first_failure faulty_lockedPlan
    serves_notedFolder hvisits (lockedPlan.failure_perform_of_calls hfront)
    ((lockedPlan.failure_perform "/repo".toList _).trans hfails)
  exact ⟨hfailure, hcalls⟩

theorem walk_aborted_path_lockedPlan :
    ∃ e : ScanAborted, walk lockedPlan "/repo".toList = .error (.aborted e) ∧
      notedFolder.AllNames Path.Plain ∧ (∀ f ∈ notedFolder.files, f.1 ∉ notedFolder.dirs) ∧
      notedPlan.access.Serves lockedPlan.encoding "/repo".toList notedFolder ∧
      lockedPlan.access.Faulty notedPlan.access lockedPlan.encoding ∧
      e.failure.path? = none ∧
      (lockedPlan.run "/repo".toList).calls.getLast? = some (.list "/repo/out".toList) ∧
      e.path ≠ "/repo/out".toList := by
  obtain ⟨hfailure, hmade⟩ := run_lockedPlan
  have hplain : notedFolder.AllNames Path.Plain := by decide
  have hapart : ∀ f ∈ notedFolder.files, f.1 ∉ notedFolder.dirs :=
    fun f hf => Folder.not_mem_dirs_of_mem_files (by decide) hf
  have hwalk := WalkRun.result_of_failed "/repo".toList hfailure rfl
  obtain ⟨before, c, hcalls, -, -, -, hplace⟩ :=
    walk_aborted_path lockedPlan notedPlan.access "/repo".toList notedFolder hplain hapart
      serves_notedFolder faulty_lockedPlan _ hwalk
  have hlast : (lockedPlan.run "/repo".toList).calls.getLast? =
      some (.list "/repo/out".toList) := by
    rw [hmade]
    rfl
  have hc : c = .list "/repo/out".toList := by
    rw [hcalls, List.getLast?_concat] at hlast
    exact Option.some.inj hlast
  obtain ⟨-, hright⟩ := hplace rfl
  subst hc
  refine ⟨_, hwalk, hplain, hapart, serves_notedFolder, faulty_lockedPlan, rfl, hlast, ?_⟩
  intro hpath
  rcases hright.mp hpath with h | h
  · cases h
  · exact absurd (Call.list.inj h) (by decide)

theorem walk_lockedPlan :
    lockedPlan.access.failure? lockedPlan.encoding (.list "/repo/out".toList) =
        some unnamedFailure ∧
      unnamedFailure.path? = none ∧
      (lockedPlan.run "/repo".toList).calls.getLast? = some (.list "/repo/out".toList) ∧
      ∃ partialTags, walk lockedPlan "/repo".toList =
        .error (.aborted ⟨"/repo/lib/b.py".toList, unnamedFailure, partialTags⟩) := by
  obtain ⟨hfailure, hcalls⟩ := run_lockedPlan
  refine ⟨by decide, rfl, ?_, (lockedPlan.run "/repo".toList).tags, ?_⟩
  · rw [hcalls]
    rfl
  · rw [walk, WalkRun.result_of_failed "/repo".toList hfailure rfl, hcalls]
    rfl

end CommentTags
