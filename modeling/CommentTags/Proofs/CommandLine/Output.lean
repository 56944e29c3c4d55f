import CommentTags.Proofs.CommandLine.Ending
import CommentTags.Proofs.Report.Text

namespace CommentTags.CommandLine

def Scan.Delivers (r : ScanRequest) (s t : Session) : Prop :=
  ∃ patterns report, Collects r s patterns report ∧
    (r.showPatterns = true → Listable s.host.width patterns) ∧
    t.out = s.out ++ (if r.showPatterns then listing s.host.width patterns else []) ++ report.text

theorem delivers_of_run {start : Session} {outlets : Outlets}
    (houtlets : Outlets.ofEnvironment start.env = .ok outlets) {args : List Text}
    {r : ScanRequest} (hargs : (ScanRequest.ofArguments args start).1 = .ok r)
    (hformat : r.format = .json)
    (hcompletes : (run start ("scan".toList :: args)).exitCode ≠ Complaint.failureCode) :
    Scan.Delivers r { start with outlets } (run start ("scan".toList :: args)).session := by
  cases hcollected : Scan.collected r { start with outlets } with
  | mk result t =>
    cases result with
    | error halt =>
      obtain ⟨⟨f, rfl, -⟩, -⟩ := Scan.fails_of_collected hcollected
      exact absurd (run_fails houtlets hargs hcollected).1 hcompletes
    | ok report =>
      obtain ⟨patterns, hcollects, hlistable, hreach⟩ := Scan.collects_of_collected hcollected
      refine ⟨patterns, report, hcollects, hlistable, ?_⟩
      have hends := run_ends houtlets hargs hcollected
      generalize (run start ("scan".toList :: args)).exitCode = code at hends hcompletes
      cases hends with
      | notShown he => exact absurd rfl hcompletes
      | notSaved _ _ _ => exact absurd rfl hcompletes
      | done hshown hout hsaved =>
        rw [hformat] at hshown
        obtain rfl := Except.ok.inj hshown
        rw [hout, hreach.out]

/-- A scan that completes with a document as its output prints the report of what it collects, and
before that the patterns that it is to show. So its output is that document and nothing else just
if no pattern was to be shown or there was none. -/
theorem run_scan_json {start : Session} (hstart : start.emitted = []) {args : List Text}
    {r : ScanRequest} (hargs : (ScanRequest.ofArguments args start).1 = .ok r)
    (hformat : r.format = .json)
    (hcompletes : (run start ("scan".toList :: args)).exitCode ≠ Complaint.failureCode) :
    ∃ outlets patterns report, Outlets.ofEnvironment start.env = .ok outlets ∧
      Scan.Collects r { start with outlets } patterns report ∧
      (run start ("scan".toList :: args)).session.out =
        (if r.showPatterns then Scan.listing start.host.width patterns else []) ++ report.text ∧
      ((run start ("scan".toList :: args)).session.out = report.text ↔
        r.showPatterns = false ∨ patterns = []) ∧
      (report.HasShortNumbers → r.showPatterns = false ∨ patterns = [] → ∀ room, 3 ≤ room →
        Json.parse (run start ("scan".toList :: args)).session.out room = .ok report.json) := by
  cases houtlets : Outlets.ofEnvironment start.env with
  | error e =>
    simp only [run, houtlets] at hcompletes
    exact absurd rfl hcompletes
  | ok outlets =>
    obtain ⟨patterns, report, hcollects, hlistable, hout⟩ :=
      delivers_of_run houtlets hargs hformat hcompletes
    have hempty : Session.out { start with outlets } = [] := by simp [Session.out, hstart]
    rw [hempty, List.nil_append] at hout
    have hiff : (run start ("scan".toList :: args)).session.out = report.text ↔
        r.showPatterns = false ∨ patterns = [] := by
      rw [hout, List.append_left_eq_self]
      cases hshow : r.showPatterns with
      | false => simp
      | true => simpa using (hlistable hshow).listing_eq_nil_iff
    refine ⟨outlets, patterns, report, rfl, hcollects, hout, hiff, ?_⟩
    intro hshort hnone room hroom
    rw [hiff.mpr hnone]
    exact Report.parse_text hshort hroom

def ignoringProject : Session where
  disk :=
    { root := .dir
        [("p".toList, .dir [(".gitignore".toList, .file (Utf8.encode "*.log\n".toList))])]
      cwd := ["p".toList] }

def showing : List Text := ["--format", "json", "--show-patterns"].map String.toList

theorem run_scan_json_showing :
    (ScanRequest.ofArguments showing ignoringProject).1 =
        .ok { format := .json, showPatterns := true } ∧
      (run ignoringProject ("scan".toList :: showing)).exitCode ≠ Complaint.failureCode ∧
      ∃ outlets patterns report, Outlets.ofEnvironment ignoringProject.env = .ok outlets ∧
        Scan.Collects { format := .json, showPatterns := true }
          { ignoringProject with outlets } patterns report ∧
        (run ignoringProject ("scan".toList :: showing)).session.out =
          Scan.listing ignoringProject.host.width patterns ++ report.text := by
  have hargs : (ScanRequest.ofArguments showing ignoringProject).1 =
      .ok { format := .json, showPatterns := true } := by decide +kernel
  have hcompletes : (run ignoringProject ("scan".toList :: showing)).exitCode ≠
      Complaint.failureCode := by decide +kernel
  obtain ⟨outlets, patterns, report, houtlets, hcollects, hout, -⟩ :=
    run_scan_json rfl hargs rfl hcompletes
  exact ⟨hargs, hcompletes, outlets, patterns, report, houtlets, hcollects, hout⟩

def shown : Text :=
  ("Ignore Pattern: *.log\n\x7b\n  \"root\": \"/p\",\n  \"annotation\": \"@TODO\",\n" ++
    "  \"total\": 0,\n  \"tags\": []\n\x7d\n").toList

theorem not_isOk_parse_showing :
    (run ignoringProject ("scan".toList :: showing)).exitCode = 0 ∧
      (run ignoringProject ("scan".toList :: showing)).session.out = shown ∧
      (Json.parse (run ignoringProject ("scan".toList :: showing)).session.out).isOk = false := by
  have hout : (run ignoringProject ("scan".toList :: showing)).session.out = shown := by
    decide +kernel
  refine ⟨by decide +kernel, hout, ?_⟩
  rw [hout]
  decide +kernel

end CommentTags.CommandLine
