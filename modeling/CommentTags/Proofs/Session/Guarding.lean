import CommentTags.Proofs.File.Filling
import CommentTags.Proofs.File.Links
import CommentTags.Proofs.Session.LogFile
import CommentTags.Proofs.Session.Sparing

/-!
What becomes of the faults of a guarded command. They are told to the user exactly where the error
log can be written; what it held before stays in front of what is written there.
-/

namespace CommentTags

namespace Disk

variable {d d' : Disk} {path : Text}

/-- There is nothing at the place of the directory of the error log, or the directory is there and
the error log can be written in it. -/
def Admits (d : Disk) : Prop :=
  d.root.at? (d.cwd ++ [Settings.ownDir]) = none ∨
    d.isDir Settings.ownDir = .ok true ∧ d.Appendable Guard.errorLog

theorem LoggedTo.fills {file : Option Text} {room : ℕ} (h : d.LoggedTo file room d')
    (hcwd : d.HasCwd) : d.Fills d' := by
  refine h.induct hcwd (.refl d) ?_
  intro x y path bytes _ hx hfills hwrite
  exact hfills.trans (fills_of_writeBytes hx hwrite)

theorem LoggedTo.exists_more {file : Option Text} {room : ℕ} (h : d.LoggedTo file room d')
    (hcwd : d.HasCwd) {old : List UInt8} (hread : d.readBytes path = .ok old) :
    ∃ more, d'.readBytes path = .ok (old ++ more) := by
  have hnone : ∃ more, d.readBytes path = .ok (old ++ more) := ⟨[], by rwa [List.append_nil]⟩
  refine h.induct hcwd hnone ?_
  rintro x y log bytes - hx ⟨more, hmore⟩ hwrite
  obtain ⟨added, hadded⟩ := exists_more_of_append hx hwrite hmore
  exact ⟨more ++ added, by rwa [← List.append_assoc]⟩

theorem readBytes_of_ensureDir_ownDir (hcwd : d.HasCwd) {old : List UInt8}
    (h : d.ensureDir Settings.ownDir = .ok d') (hread : d.readBytes path = .ok old) :
    d'.readBytes path = .ok old := by
  rcases eq_or_makeDir_of_ensureDir_ownDir h with rfl | ⟨hmake, hplace⟩
  · exact hread
  · refine readBytes_of_keeps hcwd hread (grows_of_makeDir hcwd hmake) ?_
    rintro q ⟨place, hresolve, rfl⟩
    refine keeps_of_makeDir hcwd hplace hmake fun hnames => ?_
    -- a file is at the one place and nothing at the other
    obtain ⟨-, q, hfound⟩ := exists_of_readBytes hread
    obtain rfl := Except.ok.inj (hfound.symm.trans hresolve)
    have hfile := at?_of_resolve hfound
    rw [hnames] at hfile
    have hmissing := at?_of_resolve hplace
    rw [show d.root.at? (d.cwd ++ [Settings.ownDir]) = none from hmissing] at hfile
    cases hfile

theorem exists_code_of_isDir {failure : Failure} (h : d.isDir path = .error failure) :
    ∃ code, failure = .ofCode code path := by
  unfold isDir at h
  split at h
  · cases h
  · cases h
  · split at h
    · cases h
    · exact ⟨_, (Except.error.inj h).symm⟩

section Entries

variable {node : Node} {es : List (Text × Node)}

theorem resolve_ownDir_of_at? (h : d.root.at? (d.cwd ++ [Settings.ownDir]) = some node)
    (hlink : node.isLink = false) :
    d.resolve true Settings.ownDir = .ok (.found (d.cwd ++ [Settings.ownDir]) node) := by
  obtain ⟨above, habove⟩ := Node.exists_dir_of_at?_append h
  have hentry : above.lookup Settings.ownDir = some node := by
    rw [Node.at?_append_singleton, habove] at h
    exact h
  have hname : Path.IsName Settings.ownDir := by decide +kernel
  have hplain : ∀ n ∈ above.lookup Settings.ownDir, n.isLink = false := by
    rw [hentry]
    rintro n ⟨⟩
    exact hlink
  rw [resolve_ownDir_eq_locate, locate_name habove hname hplain, if_neg (by decide +kernel), hentry]
  rfl

theorem resolve_errorLog (h : d.root.at? (d.cwd ++ [Settings.ownDir]) = some (.dir es))
    (hlink : ∀ n ∈ es.lookup "error.log".toList, n.isLink = false) :
    d.resolve true Guard.errorLog =
      .ok (.ofEntry (d.cwd ++ [Settings.ownDir]) "error.log".toList
        (es.lookup "error.log".toList)) := by
  have hshort : ¬ TooLong Settings.ownDir "error.log".toList := by
    rintro (hpath | hname)
    · exact absurd hpath (by decide +kernel)
    · exact absurd hname (by decide +kernel)
  have hjoin := resolve_join (resolve_ownDir_of_at? h rfl) (by decide +kernel) hlink
  exact (hjoin.resolve_left fun hlong => hshort hlong.2).1

theorem appendable_errorLog_iff (h : d.root.at? (d.cwd ++ [Settings.ownDir]) = some (.dir es))
    (hlink : ∀ n ∈ es.lookup "error.log".toList, n.isLink = false) :
    d.Appendable Guard.errorLog ↔ ∀ inner, es.lookup "error.log".toList ≠ some (.dir inner) := by
  have hzero : Guard.errorLog.contains Failure.zero = false := by decide +kernel
  rw [appendable_iff, and_iff_right hzero, resolve_errorLog h hlink]
  rcases hentry : es.lookup "error.log".toList with _ | _ | _ | target
  · simp [Place.ofEntry, Place.filePath?]
  · simp [Place.ofEntry, Place.filePath?]
  · simp [Place.ofEntry, Place.filePath?]
  · cases hlink _ hentry

theorem appendable_errorLog_of_put (d : Disk) :
    (d.put (d.cwd ++ [Settings.ownDir]) (.dir [])).Appendable Guard.errorLog := by
  have hmade : (d.put (d.cwd ++ [Settings.ownDir]) (.dir [])).root.at?
      (d.cwd ++ [Settings.ownDir]) = some (.dir []) := Node.at?_insert
  exact (appendable_errorLog_iff hmade nofun).mpr nofun

theorem admits_of_entries :
    (d.root.at? (d.cwd ++ [Settings.ownDir]) = none → d.Admits) ∧
      (∀ bytes, d.root.at? (d.cwd ++ [Settings.ownDir]) = some (.file bytes) → ¬ d.Admits) ∧
      ∀ es, d.root.at? (d.cwd ++ [Settings.ownDir]) = some (.dir es) →
        (∀ n ∈ es.lookup "error.log".toList, n.isLink = false) →
        (d.Admits ↔ ∀ inner, es.lookup "error.log".toList ≠ some (.dir inner)) := by
  refine ⟨.inl, ?_, ?_⟩
  · intro bytes h
    have hdir : d.isDir Settings.ownDir = .ok false := by
      simp only [isDir, Disk.node, resolve_ownDir_of_at? h rfl]
    rintro (hnone | ⟨htrue, -⟩)
    · rw [h] at hnone
      cases hnone
    · rw [hdir] at htrue
      cases htrue
  · intro es h hlink
    have hdir : d.isDir Settings.ownDir = .ok true := by
      simp only [isDir, Disk.node, resolve_ownDir_of_at? h rfl]
    rw [Admits, h, or_iff_right (Option.some_ne_none _), and_iff_right hdir]
    exact appendable_errorLog_iff h hlink

end Entries

end Disk

namespace Guard

def Tells (h : Halt) (f : Fault) : Prop :=
  ∃ c : Complaint, h = .complaint c ∧ c.cause = some f ∧ c.exitCode = Complaint.failureCode ∧
    f.kind ++ ": ".toList ++ f.message <+: c.message

theorem tells_complaint (f : Fault) : Tells (.complaint (complaint f)) f := by
  refine ⟨complaint f, rfl, rfl, rfl, ?_⟩
  rw [complaint, List.append_assoc _ _ errorLog]
  exact List.prefix_append _ _

variable {command : Text} {f : Fault} {s : Session}

theorem entry_note (s : Session) (r : Record) : entry (s.note r) command f = entry s command f := by
  rw [Session.note, Session.act_eq]
  rfl

theorem handle_of_error {failure : Failure}
    (h : s.disk.ensureDir Settings.ownDir = .error failure) :
    (handle command f : Action α) s = (.error (.fault failure.fault), s) := by
  unfold handle file
  exact Action.bind_error (Action.bind_error (Action.onDisk_error h) _) _

theorem handle_of_made {made : Disk} {noted : Session}
    (h : s.disk.ensureDir Settings.ownDir = .ok made)
    (hnoted : Session.note { s with disk := made } (record command f) = noted) :
    (handle command f : Action α) s =
      match noted.disk.writeBytes true errorLog (Utf8.encode (entry s command f)) with
      | .ok disk => (.error (.complaint (complaint f)), { noted with disk })
      | .error failure => (.error (.fault failure.fault), noted) := by
  have hentry : entry noted command f = entry s command f := hnoted ▸ entry_note _ _
  have hfile : ∀ outcome, Action.onDisk
        (·.writeBytes true errorLog (Utf8.encode (entry noted command f))) noted = outcome →
      file command f s = outcome := by
    intro outcome houtcome
    rw [file, Action.bind_ok (Action.onDisk_ok h), ← houtcome, ← hnoted]
    rfl
  rw [← hentry]
  cases hwrite : noted.disk.writeBytes true errorLog (Utf8.encode (entry noted command f)) with
  | ok disk => exact Action.bind_ok (hfile _ (Action.onDisk_ok hwrite)) _
  | error failure => exact Action.bind_error (hfile _ (Action.onDisk_error hwrite)) _

structure Handled (command : Text) (f : Fault) (s : Session) (h : Halt) (t : Session) : Prop where
  tells_iff : Tells h f ↔ s.disk.Admits
  written : s.disk.Admits → ∃ before,
    t.disk.readBytes errorLog = .ok (before ++ Utf8.encode (entry s command f)) ∧
      ∀ old, s.disk.readBytes errorLog = .ok old → old <+: before
  escapes : ¬ s.disk.Admits → ∃ code path, (path = Settings.ownDir ∨ path = errorLog) ∧
    h = .fault (Failure.ofCode code path).fault
  kept : ∀ old, s.disk.readBytes errorLog = .ok old →
    ∃ more, t.disk.readBytes errorLog = .ok (old ++ more)

theorem not_tells_fault (f g : Fault) : ¬ Tells (.fault g) f := by
  rintro ⟨c, hc, -⟩
  cases hc

theorem handled_of_refused {failure : Failure} (hadmits : ¬ s.disk.Admits)
    (h : s.disk.ensureDir Settings.ownDir = .error failure)
    (hcode : ∃ code, failure = .ofCode code Settings.ownDir) :
    ∃ h t, (handle command f : Action α) s = (.error h, t) ∧ Handled command f s h t := by
  obtain ⟨code, rfl⟩ := hcode
  refine ⟨_, _, handle_of_error h, ?_, fun h => absurd h hadmits, ?_, ?_⟩
  · exact iff_of_false (not_tells_fault f _) hadmits
  · exact fun _ => ⟨code, _, .inl rfl, rfl⟩
  · exact fun old hold => ⟨[], by rwa [List.append_nil]⟩

theorem handled_of_made {made : Disk} (hcwd : s.disk.HasCwd)
    (h : s.disk.ensureDir Settings.ownDir = .ok made)
    (hadmits : s.disk.Admits ↔ made.Appendable errorLog) :
    ∃ h t, (handle command f : Action α) s = (.error h, t) ∧ Handled command f s h t := by
  have hmade : made.HasCwd := (Disk.grows_of_makeDirs hcwd h).hasCwd hcwd
  have hlogged := (Session.reaches_note { s with disk := made } (record command f)).disk
  generalize hnote : Session.note { s with disk := made } (record command f) = noted at hlogged
  have hhandle : (handle command f : Action α) s = _ := handle_of_made h hnote
  have hfills := Disk.LoggedTo.fills hlogged hmade
  have hnoted : noted.disk.HasCwd := hfills.grows.hasCwd hmade
  have hkept : ∀ old, s.disk.readBytes errorLog = .ok old →
      ∃ more, noted.disk.readBytes errorLog = .ok (old ++ more) := fun old hold =>
    Disk.LoggedTo.exists_more hlogged hmade (Disk.readBytes_of_ensureDir_ownDir hcwd h hold)
  rw [← Disk.appendable_iff_of_fills hmade hfills] at hadmits
  by_cases hopen : noted.disk.Appendable errorLog
  · obtain ⟨disk, hwrite, -⟩ := Disk.exists_append hnoted hopen (Utf8.encode (entry s command f))
    have hread := Disk.readBytes_of_append hnoted hwrite
    rw [hwrite] at hhandle
    refine ⟨_, _, hhandle, ?_, fun _ => ⟨_, hread, ?_⟩, fun h => absurd (hadmits.mpr hopen) h, ?_⟩
    · exact iff_of_true (tells_complaint f) (hadmits.mpr hopen)
    · -- The log can be kept in the same file, and then its line stands between.
      intro old hold
      obtain ⟨more, hmore⟩ := hkept old hold
      rw [Disk.contents, hmore]
      exact List.prefix_append old more
    · intro old hold
      obtain ⟨more, hmore⟩ := hkept old hold
      rw [Disk.contents, hmore] at hread
      exact ⟨_, hread.trans (congrArg Except.ok (List.append_assoc _ _ _))⟩
  · have hzero : errorLog.contains Failure.zero = false := by decide +kernel
    obtain ⟨code, hwrite⟩ := Disk.error_of_not_appendable hzero hopen
      (Utf8.encode (entry s command f))
    rw [hwrite] at hhandle
    refine ⟨_, _, hhandle, ?_, fun h => absurd (hadmits.mp h) hopen, ?_, hkept⟩
    · exact iff_of_false (not_tells_fault f _) (fun h => hopen (hadmits.mp h))
    · exact fun _ => ⟨code, _, .inr rfl, rfl⟩

theorem handle_outcome (command : Text) (f : Fault) (hcwd : s.disk.HasCwd) :
    ∃ h t, (handle command f : Action α) s = (.error h, t) ∧ Handled command f s h t := by
  rcases Disk.ensureDir_ownDir s.disk with ⟨hmissing, hmake, hensure⟩ | ⟨⟨node, hfound⟩, hensure⟩
  · have hnone : s.disk.root.at? (s.disk.cwd ++ [Settings.ownDir]) = none :=
      Disk.at?_of_resolve hmissing
    exact handled_of_made hcwd (hensure.trans hmake)
      (iff_of_true (.inl hnone) (Disk.appendable_errorLog_of_put s.disk))
  · have hsome : s.disk.root.at? (s.disk.cwd ++ [Settings.ownDir]) = some node :=
      Disk.at?_of_resolve hfound
    have hadmits : s.disk.Admits ↔
        s.disk.isDir Settings.ownDir = .ok true ∧ s.disk.Appendable errorLog := by
      rw [Disk.Admits, hsome]
      exact or_iff_right (Option.some_ne_none _)
    rw [Disk.unlessPresent] at hensure
    cases hpresent : s.disk.isDir Settings.ownDir with
    | ok present =>
      rw [hpresent] at hensure hadmits
      cases present with
      | true => exact handled_of_made hcwd hensure (hadmits.trans (and_iff_right rfl))
      | false => exact handled_of_refused (fun h => nomatch (hadmits.mp h).1) hensure ⟨_, rfl⟩
    | error failure =>
      rw [hpresent] at hensure hadmits
      exact handled_of_refused (fun h => nomatch (hadmits.mp h).1) hensure
        (Disk.exists_code_of_isDir hpresent)

/-- A guard passes on whatever is no fault. It tells a fault where the error log admits it, which
without links means that nothing or a directory is at the place of the directory of the error log,
and that there is no directory in it at the place of the error log. -/
theorem guarded_outcome (command : Text) (body : Action α) (s : Session) :
    ((∀ f, (body s).1 ≠ .error (.fault f)) → guarded command body s = body s) ∧
      ∀ f t, body s = (.error (.fault f), t) → t.disk.HasCwd →
        ∃ h u, guarded command body s = (.error h, u) ∧ Handled command f t h u ∧
          (t.disk.root.at? (t.disk.cwd ++ [Settings.ownDir]) = none → Tells h f) ∧
          (∀ bytes, t.disk.root.at? (t.disk.cwd ++ [Settings.ownDir]) = some (.file bytes) →
            ¬ Tells h f) ∧
          ∀ es, t.disk.root.at? (t.disk.cwd ++ [Settings.ownDir]) = some (.dir es) →
            (∀ n ∈ es.lookup "error.log".toList, n.isLink = false) →
            (Tells h f ↔ ∀ inner, es.lookup "error.log".toList ≠ some (.dir inner)) := by
  refine ⟨fun hpass => ?_, fun f t hbody hcwd => ?_⟩
  · unfold guarded
    split
    · rename_i f t hbody
      exact absurd (congrArg Prod.fst hbody) (hpass f)
    · rfl
  · obtain ⟨h, u, hhandle, hhandled⟩ := handle_outcome (α := α) command f hcwd
    obtain ⟨hnone, hfile, hdir⟩ := t.disk.admits_of_entries
    have hguarded : guarded command body s = (.error h, u) := by
      rw [guarded, hbody]
      exact hhandle
    refine ⟨h, u, hguarded, hhandled, ?_, ?_, ?_⟩
    · exact fun hplace => hhandled.tells_iff.mpr (hnone hplace)
    · exact fun bytes hplace => hhandled.tells_iff.not.mpr (hfile bytes hplace)
    · exact fun es hplace hlink => hhandled.tells_iff.trans (hdir es hplace hlink)

def sessionBeside (own : Node) : Session where
  disk := { root := .dir [(Settings.ownDir, own)], cwd := [] }

def badValue : Fault := ⟨"ValueError".toList, "m".toList⟩

theorem guarded_outcome_sessionBeside :
    let old := Utf8.encode "old\n".toList
    let s := sessionBeside (.dir [("error.log".toList, .file old)])
    let exits : Action Unit := .halt (.exit 3)
    let fails : Action Unit := .halt (.fault badValue)
    (∀ f, (exits s).1 ≠ .error (.fault f)) ∧ guarded "scan".toList exits s = exits s ∧
      fails s = (.error (.fault badValue), s) ∧ s.disk.HasCwd ∧
      ∃ h u, guarded "scan".toList fails s = (.error h, u) ∧ Tells h badValue ∧
        ∃ more, u.disk.readBytes errorLog = .ok (old ++ more) := by
  intro old s exits fails
  have hexits : ∀ f, (exits s).1 ≠ .error (.fault f) := nofun
  have hpass := (guarded_outcome "scan".toList exits s).1 hexits
  have hcwd : s.disk.HasCwd := ⟨_, rfl⟩
  obtain ⟨-, hfail⟩ := guarded_outcome "scan".toList fails s
  obtain ⟨h, u, hguarded, hhandled, -, -, hdir⟩ := hfail badValue s rfl hcwd
  refine ⟨hexits, hpass, rfl, hcwd, h, u, hguarded, ?_, ?_⟩
  · refine (hdir [("error.log".toList, .file old)] rfl ?_).mpr nofun
    rintro n ⟨⟩
    rfl
  · exact hhandled.kept old (by decide +kernel)

theorem guarded_badValue_file :
    let s := sessionBeside (.file (Utf8.encode "a file".toList))
    let fails : Action Unit := .halt (.fault badValue)
    (guarded "target".toList fails s).1 =
      .error (.fault ⟨"FileExistsError".toList, "[Errno 17] File exists: '.summoner'".toList⟩) := by
  decide +kernel

end Guard

end CommentTags
