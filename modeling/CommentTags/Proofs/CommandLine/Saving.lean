import CommentTags.Proofs.CommandLine.Ending
import CommentTags.Proofs.Report.Text

namespace CommentTags.CommandLine

namespace Scan

variable {r : ScanRequest}

theorem readBytes_of_isSaved {report : Report} {s t : Session} (hcwd : s.disk.HasCwd)
    (h : IsSaved r report s t) {path : Text} (hpath : nonEmpty r.save = some path)
    (hlog : ∀ log ∈ s.outlets.file, ∀ q, t.disk.LeadsTo (Path.tidy path) q →
      ¬ t.disk.LeadsTo log q) :
    t.disk.readBytes (Path.tidy path) = .ok (Utf8.encode report.text) := by
  obtain ⟨saved, hsaved, hlogged⟩ := h path hpath
  have hcwdSaved := (Report.grows_save hcwd hsaved).hasCwd hcwd
  have hgrows := (hlogged.spares hcwdSaved []).grows
  have hread := Report.readBytes_save hcwd hsaved
  rw [(Report.exists_of_save hsaved).1] at hread
  refine Disk.readBytes_of_keeps hcwdSaved hread hgrows fun q hq => ?_
  refine (hlogged.spares hcwdSaved q).keeps fun log hmem => ?_
  exact hlog log (by simpa using hmem) q (hq.of_grows hgrows)

theorem finalCode_eq (r : ScanRequest) (report : Report) :
    finalCode r report = if r.failOnTags = true ∧ report.tags ≠ [] then tagsFoundCode else 0 := by
  simp [finalCode]

end Scan

theorem spares_of_fault {start : Session} (hcwd : start.disk.HasCwd) {outlets : Outlets}
    (houtlets : Outlets.ofEnvironment start.env = .ok outlets) {args : List Text}
    {r : ScanRequest} (hargs : (ScanRequest.ofArguments args start).1 = .ok r) {f : Fault}
    {t : Session} (h : Scan.collected r { start with outlets } = (.error (.fault f), t))
    {q : List Text} (hq : q ≠ start.disk.cwd ++ [Settings.ownDir]) :
    start.disk.Spares (Guard.errorLog :: outlets.file.toList) q
      (run start ("scan".toList :: args)).session.disk := by
  obtain ⟨-, text, -, hreach⟩ := Scan.fails_of_collected h
  obtain ⟨-, -, hspares⟩ := run_fails houtlets hargs h
  have hlogged := hreach.disk.spares hcwd q
  have hhandled := hspares (hlogged.grows.hasCwd hcwd) q (by rwa [hlogged.grows.cwd])
  rw [hreach.file] at hhandled
  exact (hlogged.mono (List.subset_cons_self _ _)).trans hhandled

/-- A scan that is to print a document fails if it cannot collect what to report. Then it prints
nothing, and keeps what is at any place of the disk but the directory of the error log and where
the logs are. Otherwise it prints its report, and if it is to save that, the text is the same,
unless the log lines go to the same file. -/
theorem run_scan_json_ends {start : Session} (hstart : start.emitted = [])
    (hcwd : start.disk.HasCwd) {outlets : Outlets}
    (houtlets : Outlets.ofEnvironment start.env = .ok outlets) {args : List Text}
    {r : ScanRequest} (hargs : (ScanRequest.ofArguments args start).1 = .ok r)
    (hformat : r.format = .json) (hshow : r.showPatterns = false) :
    let last := run start ("scan".toList :: args)
    (∀ halt t, Scan.collected r { start with outlets } = (.error halt, t) →
      (∃ f, halt = .fault f ∧ Scan.Fails r { start with outlets } f) ∧
        last.exitCode = Complaint.failureCode ∧ last.session.out = [] ∧
        ∀ q, q ≠ start.disk.cwd ++ [Settings.ownDir] →
          (∀ path ∈ Guard.errorLog :: outlets.file.toList, ¬ last.session.disk.LeadsTo path q) →
          start.disk.Keeps last.session.disk q) ∧
    ∀ report t, Scan.collected r { start with outlets } = (.ok report, t) →
      (∃ patterns, Scan.Collects r { start with outlets } patterns report) ∧
        ((∃ path failure, Scan.nonEmpty r.save = some path ∧
            report.save t.disk path = .error failure ∧
            last.exitCode = Complaint.failureCode) ∨
          last.exitCode =
              (if r.failOnTags = true ∧ report.tags ≠ [] then tagsFoundCode else 0) ∧
            last.session.out = report.text ∧
            ∀ path, Scan.nonEmpty r.save = some path →
              (∀ log ∈ outlets.file, ∀ q, last.session.disk.LeadsTo (Path.tidy path) q →
                ¬ last.session.disk.LeadsTo log q) →
              last.session.disk.readBytes (Path.tidy path) = .ok (Utf8.encode report.text)) := by
  intro last
  have hempty : Session.out { start with outlets } = [] := by simp [Session.out, hstart]
  constructor
  · intro halt t hcollected
    obtain ⟨⟨f, rfl, hfails⟩, text, htext, hreach⟩ := Scan.fails_of_collected hcollected
    obtain ⟨hcode, hout, -⟩ := run_fails houtlets hargs hcollected
    refine ⟨⟨f, rfl, hfails hshow⟩, hcode, ?_, fun q hq hpaths => ?_⟩
    · rw [hout, hreach.out, htext hshow, hempty]
      rfl
    · exact (spares_of_fault hcwd houtlets hargs hcollected hq).keeps hpaths
  · intro report t hcollected
    obtain ⟨patterns, hcollects, -, hreach⟩ := Scan.collects_of_collected hcollected
    refine ⟨⟨patterns, hcollects⟩, ?_⟩
    have hends : Scan.Ends r report t last.exitCode last.session :=
      run_ends houtlets hargs hcollected
    generalize last.exitCode = code at hends ⊢
    generalize last.session = session at hends ⊢
    cases hends with
    | notShown he =>
      rw [hformat] at he
      cases he
    | notSaved hshown hpath hfailure => exact .inl ⟨_, _, hpath, hfailure, rfl⟩
    | done hshown hout hsaved =>
      right
      rw [hformat] at hshown
      obtain rfl := Except.ok.inj hshown
      refine ⟨Scan.finalCode_eq r report, ?_, fun path hpath hlog => ?_⟩
      · rw [hout, hreach.out, hempty, hshow]
        rfl
      · have hcwdCollected := (hreach.disk.spares hcwd []).grows.hasCwd hcwd
        refine Scan.readBytes_of_isSaved hcwdCollected hsaved hpath ?_
        rwa [hreach.file]

def oneFileProject (text : String) (env : List (String × String)) : Session where
  disk :=
    { root := .dir
        [("p".toList, .dir
          [("src".toList, .dir [("a.c".toList, .file (Utf8.encode text.toList))])])]
      cwd := ["p".toList] }
  env := env.map (fun (name, value) => (name.toList, value.toList))

def savedAs (path : String) : List Text :=
  ["-p", "src", "--format", "json", "--save", path].map String.toList

def savingRequest (path : String) : ScanRequest where
  path := some "src".toList
  format := .json
  save := some path.toList

theorem run_scan_json_ends_tagged :
    let start := oneFileProject "// @TODO later\n" []
    let args := "--fail-on-tags".toList :: savedAs "out/report.json"
    let last := run start ("scan".toList :: args)
    start.emitted = [] ∧ start.disk.HasCwd ∧
      Outlets.ofEnvironment start.env = .ok { console := some .warning } ∧
      (ScanRequest.ofArguments args start).1 =
        .ok { savingRequest "out/report.json" with failOnTags := true } ∧
      last.exitCode = 2 ∧ last.session.disk.readBytes "out/report.json".toList =
        .ok (Utf8.encode last.session.out) := by
  intro start args last
  have hcwd : start.disk.HasCwd := ⟨_, rfl⟩
  have houtlets : Outlets.ofEnvironment start.env = .ok { console := some .warning } := by
    decide +kernel
  have hargs : (ScanRequest.ofArguments args start).1 =
      .ok { savingRequest "out/report.json" with failOnTags := true } := by decide +kernel
  have hcode : last.exitCode = 2 := by decide +kernel
  refine ⟨rfl, hcwd, houtlets, hargs, hcode, ?_⟩
  have hreport : (Scan.collected { savingRequest "out/report.json" with failOnTags := true }
      { start with outlets := { console := some .warning } }).1 = .ok ⟨"src".toList, "@TODO".toList,
        [⟨"@TODO".toList, "later".toList, [], "a.c".toList, 1⟩]⟩ := by decide +kernel
  have htidy : Path.tidy "out/report.json".toList = "out/report.json".toList := by decide +kernel
  obtain ⟨-, hends⟩ := run_scan_json_ends rfl hcwd houtlets hargs rfl rfl
  generalize Scan.collected { savingRequest "out/report.json" with failOnTags := true }
    { start with outlets := { console := some .warning } } = collected at hreport hends
  obtain ⟨result, t⟩ := collected
  obtain rfl := hreport
  obtain ⟨-, ⟨path, failure, -, -, hfailed⟩ | ⟨-, hout, hsaved⟩⟩ := hends _ t rfl
  · rw [hfailed] at hcode
    cases hcode
  · have hread := hsaved "out/report.json".toList (by decide +kernel) nofun
    rw [htidy] at hread
    rw [hread, hout]

/-- The text of a saved report is another one if the log lines are appended to it; a scan that fails
makes the directory of the error log, though the report was to be saved there; and nothing is saved
without a name. -/
theorem run_scan_json_unsaved :
    let logged := oneFileProject "int n;\n" [("ISSUE_SUMMONER_LOG_FILE", "out.json")]
    let misread := oneFileProject "int n;\n" [("ISSUE_SUMMONER_SCAN_ENCODING", "none")]
    let plain := oneFileProject "int n;\n" []
    let scan (start : Session) (path : String) := run start ("scan".toList :: savedAs path)
    ((ScanRequest.ofArguments (savedAs "out.json") logged).1 = .ok (savingRequest "out.json") ∧
      (scan logged "out.json").exitCode = 0 ∧
      (scan logged "out.json").session.disk.readBytes "out.json".toList ≠
        .ok (Utf8.encode (scan logged "out.json").session.out)) ∧
    ((ScanRequest.ofArguments (savedAs ".summoner") misread).1 =
        .ok (savingRequest ".summoner") ∧
      (scan misread ".summoner").exitCode = 1 ∧
      misread.disk.pathExists ".summoner".toList = .ok false ∧
      (scan misread ".summoner").session.disk.pathExists ".summoner".toList = .ok true) ∧
    (ScanRequest.ofArguments (savedAs "") plain).1 = .ok (savingRequest "") ∧
      (scan plain "").exitCode = 0 ∧
      (scan plain "").session.disk.ownFiles = plain.disk.ownFiles := by
  decide +kernel

end CommentTags.CommandLine
