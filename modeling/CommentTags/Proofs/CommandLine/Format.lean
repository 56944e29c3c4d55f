import CommentTags.Proofs.CommandLine.Ending
import CommentTags.Proofs.Console.Escaped
import CommentTags.Proofs.Text.Digits

namespace CommentTags.CommandLine

namespace Scan

theorem exists_printed_countLine (width : ℕ) (report : Report) :
    ∃ text, Console.printed width (countLine report) = .ok text := by
  have hfront : ∀ c ∈ "Found ".toList ++ Text.ofNat report.tags.length ++ [' '],
      c ≠ '[' ∧ c ≠ '\\' := by
    intro c hc
    rw [List.mem_append, List.mem_append] at hc
    rcases hc with (hc | hc) | hc
    · revert c
      decide +kernel
    · have hdigit := Text.isDigit_of_mem_ofNat hc
      constructor <;> rintro rfl <;> revert hdigit <;> decide
    · revert c
      decide
  have hline : countLine report = "Found ".toList ++ Text.ofNat report.tags.length ++ [' '] ++
      (Console.escape report.marker ++ " tag(s)".toList) := by
    unfold countLine
    generalize "Found ".toList = front
    generalize " tag(s)".toList = behind
    simp
  rw [hline]
  have hbehind : '[' ∉ " tag(s)".toList ∧ ']' ∉ " tag(s)".toList := by decide +kernel
  exact Console.exists_printed_escape hfront _ hbehind.1 hbehind.2 width

theorem exists_printed_nothingLine (width : ℕ) (report : Report) :
    ∃ text, Console.printed width (nothingLine report) = .ok text := by
  have hfront : "[success]OK:[/success] No ".toList =
      "[success]OK:[/success]".toList ++ " No ".toList := by decide +kernel
  have hline : nothingLine report = "[success]OK:[/success]".toList ++ (" No ".toList ++
      (Console.escape report.marker ++ " tags found".toList)) := by
    unfold nothingLine
    generalize "[success]OK:[/success] No ".toList = whole at hfront
    generalize "[success]OK:[/success]".toList = front at hfront
    subst hfront
    generalize " tags found".toList = behind
    simp
  rw [hline]
  apply Console.exists_printed_success
  apply Console.isShown_append (by decide +kernel)
  exact Console.isShown_escape (by decide +kernel) (by decide +kernel)

theorem exists_shown_table_iff (width : ℕ) (report : Report) :
    (∃ text, shown width .table report = .ok text) ↔
      report.tags = [] ∨
        ∃ text, (Report.table report.marker report.tags).text width = .ok text := by
  unfold shown
  cases htags : report.tags with
  | nil => simpa using exists_printed_nothingLine width report
  | cons tag tags =>
    obtain ⟨count, hcount⟩ := exists_printed_countLine width report
    rw [← htags]
    cases htable : (Report.table report.marker report.tags).text width <;>
      simp [htags, hcount, bind, Except.bind, pure, Except.pure]

end Scan

theorem exists_text_table {marker : Text} (h : '[' ∉ marker) (tags : List Tag) (width : ℕ) :
    ∃ text, (Report.table marker tags).text width = .ok text := by
  have htitle : '[' ∉ (Report.table marker tags).title := by
    simp [Report.table, h]
  obtain ⟨t, ht, hsound⟩ := Console.exists_render_of_isShown (Console.isShown_of_not_mem htitle)
  obtain ⟨lines, hlines⟩ := hsound.exists_lines ((Report.table marker tags).width width)
  simp only [Console.Table.text, ht, bind, Except.bind, hlines]
  exact ⟨_, rfl⟩

theorem exists_error_table {marker name rest : Text}
    (h : Console.tagAt? marker = some ('/' :: name, rest)) (tags : List Tag) (width : ℕ) :
    ∃ e, (Report.table marker tags).text width = .error e := by
  obtain ⟨rfl, hother⟩ := Console.exists_of_tagAt? h
  obtain ⟨e, he⟩ := Console.exists_error_of_closing (hother (rest ++ " tags".toList))
  have htitle : (Report.table (Console.bracketed ('/' :: name) ++ rest) tags).title =
      Console.bracketed ('/' :: name) ++ (rest ++ " tags".toList) := List.append_assoc _ _ _
  refine ⟨e, ?_⟩
  rw [Console.Table.text, htitle, he]
  rfl

namespace Scan

theorem Ends.code_eq_iff {r : ScanRequest} {report : Report} {t u v : Session}
    {tableCode jsonCode : Int} (htable : Ends { r with format := .table } report t tableCode u)
    (hjson : Ends { r with format := .json } report t jsonCode v) :
    tableCode = jsonCode ↔
      jsonCode = Complaint.failureCode ∨ ∃ text, shown t.host.width .table report = .ok text := by
  have hunsaved : ∀ {path : Text} {failure : Failure} {w : Session}, nonEmpty r.save = some path →
      report.save t.disk path = .error failure → ¬ IsSaved r report t w := by
    intro path failure w hpath hfailure hsaved
    obtain ⟨saved, hok, -⟩ := hsaved path hpath
    rw [hok] at hfailure
    cases hfailure
  cases htable with
  | notShown he =>
    have he : shown t.host.width .table report = .error _ := he
    simp [he, eq_comm]
  | notSaved hshown hpath hfailure =>
    cases hjson with
    | notShown he => cases he
    | notSaved _ _ _ => simp
    | done _ _ hsaved => exact absurd hsaved (hunsaved hpath hfailure)
  | done hshown hout hsaved =>
    cases hjson with
    | notShown he => cases he
    | notSaved _ hpath hfailure => exact absurd hsaved (hunsaved hpath hfailure)
    | done _ _ _ => exact ⟨fun _ => .inr ⟨_, hshown⟩, fun _ => rfl⟩

def reported? (r : ScanRequest) (start : Session) : Option Report :=
  match Outlets.ofEnvironment start.env with
  | .ok outlets => (collected r { start with outlets }).1.toOption
  | .error _ => none

theorem collected_of_reported? {r : ScanRequest} {start : Session} {report : Report}
    (h : reported? r start = some report) : ∃ outlets t,
      Outlets.ofEnvironment start.env = .ok outlets ∧
        collected r { start with outlets } = (.ok report, t) := by
  unfold reported? at h
  split at h
  · rename_i outlets houtlets
    cases hcollected : collected r { start with outlets } with
    | mk result t =>
      rw [hcollected] at h
      cases result with
      | error halt => cases h
      | ok found =>
        obtain rfl := Option.some.inj h
        exact ⟨outlets, t, houtlets, hcollected⟩
  · cases h

end Scan

section Formats

variable {start : Session} {r : ScanRequest} {tableArgs jsonArgs : List Text}

theorem exitCode_eq_iff_of_formats
    (htable : (ScanRequest.ofArguments tableArgs start).1 = .ok { r with format := .table })
    (hjson : (ScanRequest.ofArguments jsonArgs start).1 = .ok { r with format := .json }) :
    (run start ("scan".toList :: tableArgs)).exitCode =
        (run start ("scan".toList :: jsonArgs)).exitCode ↔
      (run start ("scan".toList :: jsonArgs)).exitCode = Complaint.failureCode ∨
        ∀ report ∈ Scan.reported? r start,
          ∃ text, Scan.shown start.host.width .table report = .ok text := by
  cases houtlets : Outlets.ofEnvironment start.env with
  | error e => simp [run, Scan.reported?, houtlets, Complaint.failureCode]
  | ok outlets =>
    cases hcollected : Scan.collected r { start with outlets } with
    | mk result t =>
      cases result with
      | error halt =>
        obtain ⟨⟨f, rfl, -⟩, -⟩ := Scan.fails_of_collected hcollected
        rw [(run_fails houtlets htable hcollected).1, (run_fails houtlets hjson hcollected).1]
        simp
      | ok report =>
        -- what is collected does not depend on the format
        have htableEnds := run_ends houtlets htable hcollected
        have hjsonEnds := run_ends houtlets hjson hcollected
        have hreported : Scan.reported? r start = some report := by
          simp [Scan.reported?, houtlets, hcollected, Except.toOption]
        have hhost := Scan.host_of_collected hcollected
        dsimp only at hhost
        rw [htableEnds.code_eq_iff hjsonEnds, hreported, hhost]
        simp

/-- A scan ends with the same exit code in both formats just if it fails without output, or its
table can be printed; and it can be if there is no bracket in its title. -/
theorem exitCode_table_eq_iff
    (htable : (ScanRequest.ofArguments tableArgs start).1 = .ok { r with format := .table })
    (hjson : (ScanRequest.ofArguments jsonArgs start).1 = .ok { r with format := .json }) :
    ((run start ("scan".toList :: tableArgs)).exitCode =
        (run start ("scan".toList :: jsonArgs)).exitCode ↔
      (run start ("scan".toList :: jsonArgs)).exitCode = Complaint.failureCode ∨
        ∀ report ∈ Scan.reported? r start, report.tags = [] ∨
          ∃ text, (Report.table report.marker report.tags).text start.host.width = .ok text) ∧
    ((∀ report ∈ Scan.reported? r start, '[' ∉ report.marker) →
      (run start ("scan".toList :: tableArgs)).exitCode =
        (run start ("scan".toList :: jsonArgs)).exitCode) := by
  have hiff := exitCode_eq_iff_of_formats htable hjson
  simp only [Scan.exists_shown_table_iff] at hiff
  refine ⟨hiff, fun hmarker => hiff.mpr (.inr fun report hreport => .inr ?_)⟩
  exact exists_text_table (hmarker report hreport) report.tags start.host.width

def bracketedProject : Session where
  disk :=
    { root := .dir
        [("p".toList, .dir
          [("a.c".toList, .file (Utf8.encode "// @FIXME later\nint n;\n// [/x] now\n".toList))])]
      cwd := ["p".toList] }

def marked (marker : String) (rest : List String) : List Text :=
  ("-t" :: marker :: rest).map String.toList

theorem exitCode_table_eq_plain :
    (ScanRequest.ofArguments (marked "@FIXME" ["--fail-on-tags"]) bracketedProject).1 =
        .ok { marker := some "@FIXME".toList, failOnTags := true } ∧
      (run bracketedProject ("scan".toList :: marked "@FIXME" ["--fail-on-tags"])).exitCode =
        (run bracketedProject
          ("scan".toList :: marked "@FIXME" ["--fail-on-tags", "--format", "json"])).exitCode := by
  have htable : (ScanRequest.ofArguments (marked "@FIXME" ["--fail-on-tags"])
      bracketedProject).1 = .ok { marker := some "@FIXME".toList, failOnTags := true } := by
    decide +kernel
  have hjson : (ScanRequest.ofArguments
      (marked "@FIXME" ["--fail-on-tags", "--format", "json"]) bracketedProject).1 =
        .ok { marker := some "@FIXME".toList, format := .json, failOnTags := true } := by
    decide +kernel
  have hreported : Scan.reported? { marker := some "@FIXME".toList, failOnTags := true }
      bracketedProject = some ⟨"/p".toList, "@FIXME".toList, [⟨"@FIXME".toList, "later".toList, [],
        "a.c".toList, 1⟩]⟩ := by decide +kernel
  refine ⟨htable, (exitCode_table_eq_iff
    (r := { marker := some "@FIXME".toList, failOnTags := true }) htable hjson).2 ?_⟩
  rw [hreported]
  decide +kernel

theorem exitCode_table_of_closing
    (htable : (ScanRequest.ofArguments tableArgs start).1 = .ok { r with format := .table })
    {report : Report} (hreported : Scan.reported? r start = some report) (htags : report.tags ≠ [])
    {name rest : Text} (hmarker : Console.tagAt? report.marker = some ('/' :: name, rest)) :
    (run start ("scan".toList :: tableArgs)).exitCode = Complaint.failureCode := by
  obtain ⟨outlets, t, houtlets, hcollected⟩ := Scan.collected_of_reported? hreported
  obtain ⟨e, he⟩ := exists_error_table hmarker report.tags start.host.width
  have hnone : ∀ text, Scan.shown start.host.width .table report ≠ .ok text := by
    intro text htext
    rcases (Scan.exists_shown_table_iff _ report).mp ⟨text, htext⟩ with hnil | ⟨table, htable⟩
    · exact htags hnil
    · rw [he] at htable
      cases htable
  have hhost := Scan.host_of_collected hcollected
  dsimp only at hhost
  have hends := run_ends houtlets htable hcollected
  generalize (run start ("scan".toList :: tableArgs)).exitCode = code at hends
  cases hends with
  | notShown _ => rfl
  | notSaved _ _ _ => rfl
  | done hshown _ _ => exact absurd hshown (hhost ▸ hnone _)

theorem exitCode_table_ne_bracketed :
    (ScanRequest.ofArguments (marked "[/x]" []) bracketedProject).1 =
        .ok { marker := some "[/x]".toList } ∧
      (ScanRequest.ofArguments (marked "[/x]" ["--format", "json"]) bracketedProject).1 =
        .ok { marker := some "[/x]".toList, format := .json } ∧
      (run bracketedProject ("scan".toList :: marked "[/x]" ["--format", "json"])).exitCode = 0 ∧
      (run bracketedProject ("scan".toList :: marked "[/x]" [])).exitCode = 1 := by
  have htable : (ScanRequest.ofArguments (marked "[/x]" []) bracketedProject).1 =
      .ok { marker := some "[/x]".toList } := by decide +kernel
  have hreported : Scan.reported? { marker := some "[/x]".toList } bracketedProject =
      some ⟨"/p".toList, "[/x]".toList, [⟨"[/x]".toList, "now".toList, [], "a.c".toList, 3⟩]⟩ := by
    decide +kernel
  have hmarker : Console.tagAt? "[/x]".toList = some ('/' :: ['x'], []) := by decide +kernel
  refine ⟨htable, by decide +kernel, by decide +kernel, ?_⟩
  exact exitCode_table_of_closing (r := { marker := some "[/x]".toList }) htable hreported
    (by simp) hmarker

end Formats

end CommentTags.CommandLine
