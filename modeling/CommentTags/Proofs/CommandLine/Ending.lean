import CommentTags.CommandLine.Program
import CommentTags.Proofs.CommandLine.Scan
import CommentTags.Proofs.Session.Sparing

namespace CommentTags.CommandLine

namespace Scan

def opened (r : ScanRequest) (s : Session) : Session :=
  if r.verbose then (s.act (.setConsoleLevel "DEBUG".toList)).1 else s

theorem reaches_opened (r : ScanRequest) (s : Session) : s.Reaches [] (opened r s) := by
  unfold opened
  split
  · exact s.reaches_act _
  · exact .refl s

@[simp]
theorem disk_opened (r : ScanRequest) (s : Session) : (opened r s).disk = s.disk := by
  unfold opened
  split
  · exact s.disk_setConsoleLevel _
  · rfl

@[simp]
theorem settingsOf_opened (r : ScanRequest) (s : Session) (root : Text) :
    settingsOf (opened r s) root = settingsOf s root := by
  have hopened := reaches_opened r s
  rw [settingsOf, disk_opened, hopened.env, hopened.host, settingsOf]

@[simp]
theorem finds_opened_iff {r : ScanRequest} {s : Session} {access : FileAccess} :
    Finds (opened r s) access ↔ Finds s access := by
  have hopened := reaches_opened r s
  rw [Finds, disk_opened, hopened.file, hopened.host, Finds]

theorem Collects.of_opened {r : ScanRequest} {s : Session} {patterns : List IgnorePattern}
    {report : Report} (h : Collects r (opened r s) patterns report) :
    Collects r s patterns report where
  root := by simpa using h.root
  settings := by simpa using h.settings

theorem Fails.of_opened {r : ScanRequest} {s : Session} {f : Fault}
    (h : Fails r (opened r s) f) : Fails r s f := by
  cases h with
  | settings hflaw => exact .settings (by simpa using hflaw)
  | patterns hsettings haccess he =>
    simp only [disk_opened, settingsOf_opened, finds_opened_iff] at hsettings haccess he
    exact .patterns hsettings haccess he
  | walk hsettings haccess hpatterns hlast he =>
    simp only [disk_opened, settingsOf_opened, finds_opened_iff]
      at hsettings haccess hpatterns hlast he
    exact .walk hsettings haccess hpatterns hlast he

def collected (r : ScanRequest) (s : Session) : Except Halt Report × Session :=
  collect r (opened r s)

theorem collects_of_collected {r : ScanRequest} {s t : Session} {report : Report}
    (h : collected r s = (.ok report, t)) :
    ∃ patterns, Collects r s patterns report ∧
      (r.showPatterns = true → Listable s.host.width patterns) ∧
      s.Reaches (if r.showPatterns then listing s.host.width patterns else []) t := by
  have hopened := reaches_opened r s
  have hmeets := collect_meets r (opened r s)
  have hcollect : collect r (opened r s) = (.ok report, t) := h
  rw [Action.Meets, hcollect] at hmeets
  obtain ⟨patterns, hcollects, hlistable, hreach⟩ := hmeets
  rw [hopened.host] at hlistable hreach
  exact ⟨patterns, hcollects.of_opened, hlistable, hopened.trans hreach⟩

theorem host_of_collected {r : ScanRequest} {s t : Session} {report : Report}
    (h : collected r s = (.ok report, t)) : t.host = s.host := by
  obtain ⟨patterns, -, -, hreach⟩ := collects_of_collected h
  exact hreach.host

theorem fails_of_collected {r : ScanRequest} {s t : Session} {halt : Halt}
    (h : collected r s = (.error halt, t)) :
    (∃ f, halt = .fault f ∧ (r.showPatterns = false → Fails r s f)) ∧
      ∃ text, (r.showPatterns = false → text = []) ∧ s.Reaches text t := by
  have hopened := reaches_opened r s
  have hmeets := collect_meets r (opened r s)
  have hcollect : collect r (opened r s) = (.error halt, t) := h
  rw [Action.Meets, hcollect] at hmeets
  obtain ⟨⟨f, rfl, hfails⟩, text, htext, hreach⟩ := hmeets
  exact ⟨⟨f, rfl, fun hshow => (hfails hshow).of_opened⟩, text, htext, hopened.trans hreach⟩

def countLine (report : Report) : Text :=
  "Found ".toList ++ Text.ofNat report.tags.length ++ ' ' ::
    Console.escape report.marker ++ " tag(s)".toList

def nothingLine (report : Report) : Text :=
  "[success]OK:[/success] No ".toList ++ Console.escape report.marker ++ " tags found".toList

def shown (width : Nat) (format : Format) (report : Report) : Except Console.MarkupError Text :=
  match format with
  | .json => .ok report.text
  | .table =>
    if report.tags.isEmpty then Console.printed width (nothingLine report)
    else do
      let table ← (Report.table report.marker report.tags).text width
      let count ← Console.printed width (countLine report)
      return table ++ count

theorem printTable_meets {report : Report} (htags : report.tags.isEmpty = false) (s : Session) :
    (printTable report).Meets s
      (fun _ t => ∃ text, shown s.host.width .table report = .ok text ∧ t.out = s.out ++ text ∧
        t.disk = s.disk ∧ t.outlets = s.outlets ∧ t.host = s.host)
      (fun h _ => (∃ e, shown s.host.width .table report = .error e) ∧ ∃ f, h = .fault f) := by
  unfold printTable
  apply Action.meets_session_bind
  apply Action.meets_orFault_bind
  · intro table htable
    apply Action.meets_modify_bind
    refine (printMarkup_meets (countLine report) _).mono ?_ ?_
    · rintro - t ⟨count, hcount, rfl⟩
      have hcount : Console.printed s.host.width (countLine report) = .ok count := hcount
      refine ⟨table ++ count, ?_, ?_, rfl, rfl, rfl⟩
      · simp [shown, htags, htable, hcount, bind, Except.bind, pure, Except.pure]
      · simp [Session.emit, Session.out, Emission.out?]
    · rintro h t ⟨⟨e, he, rfl⟩, -⟩
      have he : Console.printed s.host.width (countLine report) = .error e := he
      refine ⟨⟨e, ?_⟩, _, rfl⟩
      simp [shown, htags, htable, he, bind, Except.bind]
  · intro e he
    refine ⟨⟨e, ?_⟩, _, rfl⟩
    simp [shown, htags, he, bind, Except.bind]

theorem present_meets (format : Format) (report : Report) (s : Session) :
    (present format report).Meets s
      (fun _ t => ∃ text, shown s.host.width format report = .ok text ∧ t.out = s.out ++ text ∧
        t.disk = s.disk ∧ t.outlets = s.outlets ∧ t.host = s.host)
      (fun h _ => (∃ e, shown s.host.width format report = .error e) ∧ ∃ f, h = .fault f) := by
  cases format with
  | json =>
    refine ⟨report.text, rfl, ?_, rfl, rfl, rfl⟩
    exact (s.reaches_print report.text).out
  | table =>
    unfold present
    cases htags : report.tags.isEmpty with
    | false => exact printTable_meets htags s
    | true =>
      refine (printMarkup_meets (nothingLine report) s).mono ?_ ?_
      · rintro - t ⟨text, htext, rfl⟩
        refine ⟨text, ?_, (s.reaches_print text).out, rfl, rfl, rfl⟩
        simp [shown, htags, htext]
      · rintro h t ⟨⟨e, he, rfl⟩, -⟩
        refine ⟨⟨e, ?_⟩, _, rfl⟩
        simp [shown, htags, he]

theorem save_meets (path : Text) (report : Report) (s : Session) :
    (save path report).Meets s
      (fun _ t => ∃ saved, report.save s.disk path = .ok saved ∧ t.out = s.out ∧
        saved.disk.LoggedTo s.outlets.file s.host.writingRoom t.disk)
      (fun h _ => (∃ failure, report.save s.disk path = .error failure) ∧ ∃ f, h = .fault f) := by
  unfold save
  apply Action.meets_session_bind
  apply Action.meets_orFault_bind
  · intro saved hsaved
    have hnote := Session.reaches_note { s with disk := saved.disk } (Report.savedNote saved.path)
    have herror := Session.reaches_emit (Session.note { s with disk := saved.disk }
      (Report.savedNote saved.path))
      [.err (Console.withoutSequences ("Report saved to ".toList ++ saved.path) ++ ['\n'])]
    have hreach := hnote.trans herror
    exact ⟨saved, hsaved, hreach.out.trans (List.append_nil _), hreach.disk⟩
  · exact fun failure hfailure => ⟨⟨failure, hfailure⟩, _, rfl⟩

def closing (r : ScanRequest) (report : Report) : Action Unit := do
  match nonEmpty r.save with
  | some path => save path report
  | none => pure ()
  if r.failOnTags && !report.tags.isEmpty then .halt (.quit tagsFoundCode)

theorem perform_eq (r : ScanRequest) (s : Session) :
    perform r s =
      (do
        let report ← collect r
        present r.format report
        closing r report : Action Unit) (opened r s) := by
  unfold perform opened
  split <;> rfl

def finalCode (r : ScanRequest) (report : Report) : Int :=
  if r.failOnTags && !report.tags.isEmpty then tagsFoundCode else 0

/-- The report was saved, if it was to be, and nothing but log lines written since then. -/
def IsSaved (r : ScanRequest) (report : Report) (s t : Session) : Prop :=
  ∀ path, nonEmpty r.save = some path →
    ∃ saved, report.save s.disk path = .ok saved ∧
      saved.disk.LoggedTo s.outlets.file s.host.writingRoom t.disk

theorem quit_meets (r : ScanRequest) (report : Report) (s : Session) :
    (if r.failOnTags && !report.tags.isEmpty then .halt (.quit tagsFoundCode) else pure () :
      Action Unit).Meets s (fun _ t => finalCode r report = 0 ∧ t = s)
      (fun h t => h = .quit (finalCode r report) ∧ t = s) := by
  unfold finalCode
  split
  · exact Action.meets_halt ⟨rfl, rfl⟩
  · exact Action.meets_pure ⟨rfl, rfl⟩

theorem closing_meets (r : ScanRequest) (report : Report) (s : Session) :
    (closing r report).Meets s
      (fun _ t => finalCode r report = 0 ∧ t.out = s.out ∧ IsSaved r report s t)
      (fun h t => h = .quit (finalCode r report) ∧ t.out = s.out ∧ IsSaved r report s t ∨
        (∃ path failure, nonEmpty r.save = some path ∧ report.save s.disk path = .error failure) ∧
          ∃ f, h = .fault f) := by
  unfold closing
  cases hsave : nonEmpty r.save with
  | none =>
    have hsaved : IsSaved r report s s := by
      intro path hpath
      rw [hsave] at hpath
      cases hpath
    refine (quit_meets r report s).mono ?_ ?_
    · rintro - t ⟨hzero, rfl⟩
      exact ⟨hzero, rfl, hsaved⟩
    · rintro h t ⟨hquit, rfl⟩
      exact .inl ⟨hquit, rfl, hsaved⟩
  | some path =>
    refine Action.meets_bind ((save_meets path report s).mono (fun _ t h => h) ?_) ?_
    · rintro h t ⟨⟨failure, hfailure⟩, hfault⟩
      exact .inr ⟨⟨path, failure, rfl, hfailure⟩, hfault⟩
    · rintro - t ⟨saved, hreport, hout, hlogged⟩
      have hsaved : IsSaved r report s t := by
        intro path' hpath
        obtain rfl := Option.some.inj (hsave.symm.trans hpath)
        exact ⟨saved, hreport, hlogged⟩
      refine (quit_meets r report t).mono ?_ ?_
      · rintro - u ⟨hzero, rfl⟩
        exact ⟨hzero, hout, hsaved⟩
      · rintro h u ⟨hquit, rfl⟩
        exact .inl ⟨hquit, hout, hsaved⟩

/-- The ends of a scan that collects a report: its exit code and its last session. The output of
the scan cannot be printed, the report not be saved, or all is done. -/
inductive Ends (r : ScanRequest) (report : Report) (s : Session) : Int → Session → Prop where
  | notShown {e : Console.MarkupError} {t : Session}
    (h : shown s.host.width r.format report = .error e) : Ends r report s Complaint.failureCode t
  | notSaved {text path : Text} {failure : Failure} {t : Session}
    (hshown : shown s.host.width r.format report = .ok text) (hpath : nonEmpty r.save = some path)
    (h : report.save s.disk path = .error failure) : Ends r report s Complaint.failureCode t
  | done {text : Text} {t : Session} (hshown : shown s.host.width r.format report = .ok text)
    (hout : t.out = s.out ++ text) (hsaved : IsSaved r report s t) :
    Ends r report s (finalCode r report) t

theorem perform_ends {r : ScanRequest} {s t : Session} {report : Report}
    (h : collected r s = (.ok report, t)) :
    (perform r).Meets s (fun _ u => Ends r report t 0 u)
      (fun h u => (∃ f, h = .fault f) ∧ (∀ v, Ends r report t Complaint.failureCode v) ∨
        ∃ code, h = .quit code ∧ Ends r report t code u) := by
  have hcollect : collect r (opened r s) = (.ok report, t) := h
  rw [Action.Meets, perform_eq, Action.bind_ok hcollect]
  refine Action.meets_bind ((present_meets r.format report t).mono (fun _ u h => h) ?_) ?_
  · rintro h u ⟨⟨e, he⟩, hfault⟩
    exact .inl ⟨hfault, fun v => .notShown he⟩
  · rintro - u ⟨text, htext, hout, hdisk, houtlets, hhost⟩
    have hdone : ∀ v, v.out = u.out → IsSaved r report u v →
        Ends r report t (finalCode r report) v := by
      intro v hv hsaved
      refine .done htext (hv.trans hout) fun path hpath => ?_
      simpa only [hdisk, houtlets, hhost] using hsaved path hpath
    refine (closing_meets r report u).mono ?_ ?_
    · rintro - v ⟨hzero, hv, hsaved⟩
      exact hzero ▸ hdone v hv hsaved
    · rintro h v (⟨rfl, hv, hsaved⟩ | ⟨⟨path, failure, hpath, hfailure⟩, hfault⟩)
      · exact .inr ⟨_, rfl, hdone v hv hsaved⟩
      · rw [hdisk] at hfailure
        exact .inl ⟨hfault, fun v => .notSaved htext hpath hfailure⟩

end Scan

theorem out_ofHalt (s : Session) (h : Halt) : (Outcome.ofHalt s h).session.out = s.out := by
  cases h <;> simp [Outcome.ofHalt, Session.emit, Session.out, Emission.out?]

theorem disk_ofHalt (s : Session) (h : Halt) : (Outcome.ofHalt s h).session.disk = s.disk := by
  cases h <;> rfl

def SparesDisk (s t : Session) : Prop :=
  s.disk.HasCwd → ∀ q, q ≠ s.disk.cwd ++ [Settings.ownDir] →
    s.disk.Spares (Guard.errorLog :: s.outlets.file.toList) q t.disk

theorem file_meets (command : Text) (f : Fault) (s : Session) :
    (Guard.file command f).Meets s (fun _ t => t.out = s.out ∧ SparesDisk s t)
      (fun h t => (∃ f, h = .fault f) ∧ t.out = s.out ∧ SparesDisk s t) := by
  unfold Guard.file
  refine Action.meets_bind ((Action.meets_onDisk _ s).mono (fun _ t h => h) ?_) ?_
  · rintro h t ⟨hfault, rfl⟩
    exact ⟨hfault, rfl, fun hcwd q hq => .refl _ _ q⟩
  · rintro - t ⟨disk, hdisk, rfl⟩
    have hnote := Session.reaches_note { s with disk } (Guard.record command f)
    have hout : (Session.note { s with disk } (Guard.record command f)).out = s.out :=
      hnote.out.trans (List.append_nil _)
    have hspares : SparesDisk s (Session.note { s with disk } (Guard.record command f)) := by
      intro hcwd q hq
      have hmade := Disk.spares_of_ensureDir_ownDir hcwd hdisk
        (Guard.errorLog :: s.outlets.file.toList) hq
      have hlogged := hnote.disk.spares (hmade.grows.hasCwd hcwd) q
      exact hmade.trans (hlogged.mono (List.subset_cons_self _ _))
    apply Action.meets_modify_bind
    apply Action.meets_session_bind
    refine (Action.meets_onDisk _ _).mono ?_ ?_
    · rintro - t ⟨disk', hdisk', rfl⟩
      refine ⟨hout, fun hcwd q hq => ?_⟩
      have hbefore := hspares hcwd q hq
      have hwritten := Disk.spares_of_writeBytes (hbefore.grows.hasCwd hcwd) hdisk' q
      exact hbefore.trans (hwritten.mono (by simp))
    · rintro h t ⟨hfault, rfl⟩
      exact ⟨hfault, hout, hspares⟩

theorem handle_meets (command : Text) (f : Fault) (s : Session) :
    (Guard.handle command f : Action α).Meets s (fun _ _ => False)
      (fun h t => (∀ u, (Outcome.ofHalt u h).exitCode = Complaint.failureCode) ∧ t.out = s.out ∧
        SparesDisk s t) := by
  unfold Guard.handle
  refine Action.meets_bind ((file_meets command f s).mono (fun _ t h => h) ?_) ?_
  · rintro h t ⟨⟨f, rfl⟩, hkept⟩
    exact ⟨fun u => rfl, hkept⟩
  · rintro - t hkept
    exact Action.meets_halt ⟨fun u => rfl, hkept⟩

namespace Scan

theorem guarded_ends {r : ScanRequest} {s t : Session} {report : Report}
    (h : collected r s = (.ok report, t)) :
    (guarded r).Meets s (fun _ u => Ends r report t 0 u)
      (fun h u => Ends r report t (Outcome.ofHalt u h).exitCode (Outcome.ofHalt u h).session) := by
  have hperform := perform_ends h
  unfold Action.Meets at hperform
  cases hr : perform r s with
  | mk result u =>
    rw [hr] at hperform
    rw [Action.Meets, guarded, Guard.guarded, hr]
    cases result with
    | ok a => exact hperform
    | error h =>
      rcases hperform with ⟨⟨f, rfl⟩, hends⟩ | ⟨code, rfl, hends⟩
      · refine (handle_meets "scan".toList f u).mono (fun _ _ h => h.elim) ?_
        rintro h v ⟨hcode, -⟩
        rw [hcode]
        exact hends _
      · exact hends

theorem guarded_of_fault {r : ScanRequest} {s t : Session} {f : Fault}
    (h : collected r s = (.error (.fault f), t)) :
    (guarded r).Meets s (fun _ _ => False)
      (fun h u => (∀ v, (Outcome.ofHalt v h).exitCode = Complaint.failureCode) ∧ u.out = t.out ∧
        SparesDisk t u) := by
  have hcollect : collect r (opened r s) = (.error (.fault f), t) := h
  have hperform : perform r s = (.error (.fault f), t) := by
    rw [perform_eq]
    exact Action.bind_error hcollect _
  rw [Action.Meets, guarded, Guard.guarded, hperform]
  exact handle_meets "scan".toList f t

end Scan

theorem ofArguments_of_disk_eq {args : List Text} {r : ScanRequest} {s t : Session}
    (h : (ScanRequest.ofArguments args s).1 = .ok r) (ht : t.disk = s.disk) :
    ScanRequest.ofArguments args t = (.ok r, t) := by
  unfold ScanRequest.ofArguments at h ⊢
  cases hparse : parse scanSpec.options true args with
  | error e =>
    rw [hparse] at h
    cases h
  | ok parsed =>
    rw [hparse] at h
    dsimp only at h ⊢
    by_cases hhelp : parsed.has .help = true
    · rw [if_pos hhelp] at h
      cases h
    · have hsession : ∀ u : Session, Action.session u = (.ok u, u) := fun _ => rfl
      rw [if_neg hhelp, Action.bind_ok (hsession _)] at h ⊢
      rw [ht]
      cases hproblem : parsed.problem? scanSpec.options s.disk with
      | some problem =>
        rw [hproblem] at h
        cases h
      | none =>
        rw [hproblem] at h
        dsimp only at h ⊢
        rcases hrest : parsed.rest with _ | ⟨arg, _ | ⟨other, more⟩⟩
        · rw [hrest] at h
          cases h
          rfl
        · rw [hrest] at h
          cases h
        · rw [hrest] at h
          cases h

theorem readOptions_scan (args : List Text) :
    Program.readOptions ("scan".toList :: args) = pure ("scan".toList :: args) := by
  have hparse : parse programSpec.options false ("scan".toList :: args) =
      .ok ⟨[], "scan".toList :: args⟩ := by
    rw [parse, if_neg (by decide), if_neg (by simp)]
    rfl
  rw [Program.readOptions, hparse]
  rfl

theorem body_scan (args : List Text) :
    Program.body ("scan".toList :: args) =
      (do Scan.guarded (← ScanRequest.ofArguments args)) := by
  funext s
  have hoptions : Program.readOptions ("scan".toList :: args) s =
      (.ok ("scan".toList :: args), s) := by
    rw [readOptions_scan]
    rfl
  exact Action.bind_ok hoptions _

def Outcome.ofResult : Except Halt Unit × Session → Outcome
  | (.ok (), s) => ⟨s, 0, none⟩
  | (.error halt, s) => .ofHalt s halt

section Run

variable {start : Session} {outlets : Outlets} {args : List Text} {r : ScanRequest}

theorem run_scan (houtlets : Outlets.ofEnvironment start.env = .ok outlets)
    (hargs : (ScanRequest.ofArguments args start).1 = .ok r) :
    run start ("scan".toList :: args) = .ofResult (Scan.guarded r { start with outlets }) := by
  have hread : ScanRequest.ofArguments args { start with outlets } =
      (.ok r, { start with outlets }) := ofArguments_of_disk_eq hargs rfl
  have hbody : Program.body ("scan".toList :: args) { start with outlets } =
      Scan.guarded r { start with outlets } := by
    rw [body_scan]
    exact Action.bind_ok hread _
  simp only [run, houtlets, hbody]
  rfl

theorem run_ends (houtlets : Outlets.ofEnvironment start.env = .ok outlets)
    (hargs : (ScanRequest.ofArguments args start).1 = .ok r) {report : Report} {t : Session}
    (h : Scan.collected r { start with outlets } = (.ok report, t)) :
    Scan.Ends r report t (run start ("scan".toList :: args)).exitCode
      (run start ("scan".toList :: args)).session := by
  have hguarded := Scan.guarded_ends h
  rw [run_scan houtlets hargs]
  unfold Action.Meets at hguarded
  split at hguarded
  · rename_i u hu
    rw [hu]
    exact hguarded
  · rename_i halt u hu
    rw [hu]
    exact hguarded

theorem run_fails (houtlets : Outlets.ofEnvironment start.env = .ok outlets)
    (hargs : (ScanRequest.ofArguments args start).1 = .ok r) {f : Fault} {t : Session}
    (h : Scan.collected r { start with outlets } = (.error (.fault f), t)) :
    (run start ("scan".toList :: args)).exitCode = Complaint.failureCode ∧
      (run start ("scan".toList :: args)).session.out = t.out ∧
      SparesDisk t (run start ("scan".toList :: args)).session := by
  have hguarded := Scan.guarded_of_fault h
  rw [run_scan houtlets hargs]
  unfold Action.Meets at hguarded
  split at hguarded
  · exact hguarded.elim
  · rename_i halt u hu
    obtain ⟨hcode, hout, hspares⟩ := hguarded
    rw [hu, Outcome.ofResult]
    refine ⟨hcode u, (out_ofHalt u halt).trans hout, fun hcwd q hq => ?_⟩
    rw [disk_ofHalt]
    exact hspares hcwd q hq

end Run

end CommentTags.CommandLine
