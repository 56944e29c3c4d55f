import CommentTags.File.Local
import CommentTags.Proofs.File.Utf8
import CommentTags.Proofs.Text.LineEnds
import CommentTags.Proofs.Walk.Failure

namespace CommentTags

theorem Text.dropLineEnd_append_lineFeed (line : Text) :
    (line ++ ['\n']).dropLineEnd = line.dropLineEnd :=
  Text.dropEndWhile_append_of_pos _ line '\n' rfl

namespace CommentStyle

variable (style : CommentStyle) (marker : Text)

theorem feed_nil (s : CommentState) : (style.feed marker s []).2 = .nothing := by
  have hfields : ∀ kind delimiter, Content.commentFields [] kind delimiter = [] := by
    intro kind delimiter
    simp [Content.commentFields, Text.fields]
  unfold feed
  dsimp only
  split
  · simp only [Content.ofLine, hfields]
    rfl
  · rfl

end CommentStyle

namespace Assembly

variable (search : Search)

theorem step_append_lineFeed (a : Assembly) (number : ℕ) (line : Text) :
    step search a number (line ++ ['\n']) = step search a number line := by
  simp only [step, Text.dropLineEnd_append_lineFeed]

theorem step_nil (a : Assembly) (number : ℕ) :
    (step search a number []).1 ++ release (step search a number []).2.draft =
      release a.draft := by
  have hdescribe : ∀ kind,
      (absorb search number kind .nothing a.draft).1 ++
        release (absorb search number kind .nothing a.draft).2 = release a.draft := by
    intro kind
    cases a.draft with
    | none => rfl
    | some draft =>
      change (describe kind [] (some draft)).1 ++ release (describe kind [] (some draft)).2 = _
      rw [describe]
      split <;> rfl
  have hnothing : (search.style.feed search.marker a.comment (Text.dropLineEnd [])).2 = .nothing :=
    search.style.feed_nil search.marker a.comment
  rw [step_eq]
  simp only [hnothing]
  split
  · split
    · rw [release, List.append_nil]
      exact hdescribe _
    · exact hdescribe _
  · rw [release, List.append_nil]

theorem advance_fed (closed : Bool) (a : Assembly) (number : ℕ) (lines : List Text) :
    (advance search a number (Text.fed closed lines)).1 ++
        release (advance search a number (Text.fed closed lines)).2.draft =
      (advance search a number lines).1 ++ release (advance search a number lines).2.draft := by
  induction lines generalizing a number with
  | nil => rfl
  | cons line rest ih =>
    cases rest with
    | nil =>
      rw [Text.fed]
      split
      · rw [advance, step_append_lineFeed, advance]
      · split
        · rename_i hempty
          obtain rfl := List.isEmpty_iff.mp hempty
          simp only [advance, List.append_nil, List.nil_append, step_nil]
        · rfl
    | cons line' rest =>
      rw [Text.fed, advance, advance, step_append_lineFeed]
      simp only [List.append_assoc, ih]

theorem yields_fed (closed : Bool) (lines : List Text) :
    yields search (Text.fed closed lines) = yields search lines :=
  advance_fed search closed .initial 1 lines

end Assembly

theorem scanReading_fed (search : Search) (closed : Bool) (lines : List Text) :
    scanReading search ⟨Text.fed closed lines, none⟩ = scanReading search ⟨lines, none⟩ := by
  simp only [scanReading, scanJournal, scanLines, Assembly.yields_fed]

variable {d : Disk} {path encoding : Text} {e : LineEnd} {closed : Bool} {lines : List Text}
  {bytes : List UInt8}

theorem Disk.readText_of_strewn (hname : Encoding.ofFileName? encoding = some .utf8)
    (hzero : Failure.zero ∉ encoding) (hlines : ∀ l ∈ lines, '\r' ∉ l ∧ '\n' ∉ l)
    (hstrewn : Utf8.Strewn (e.join closed lines) bytes) (hbytes : d.readBytes path = .ok bytes)
    (codecs : Codecs) :
    d.readText path encoding codecs = .ok ⟨Text.fed closed lines, none⟩ := by
  have htext : Encoding.utf8.decode? bytes = some (e.join closed lines) := by
    rw [Encoding.decode?, Utf8.lenient_of_strewn hstrewn]
  rw [readText_of_decode? hzero hname hbytes htext codecs,
    LineEnd.lines_unifyLineEnds_join e closed hlines]

/-- A file in UTF-8 that ends all of its lines in one way, with any bytes strewn in between the
characters that no character has, is read as its lines, each with a line feed. Its tags are those
of the lines, and a scan of it does what it does with the clean file of the same lines, whether or
not the last one is ended there. -/
theorem scanFile_of_strewn (plan : WalkPlan) (followLinks : Bool) (codecs : Codecs)
    (sourceFile : Text)
    (hname : Encoding.ofFileName? plan.encoding = some .utf8)
    (hzero : Failure.zero ∉ plan.encoding) (hlines : ∀ l ∈ lines, '\r' ∉ l ∧ '\n' ∉ l)
    (hstrewn : Utf8.Strewn (e.join closed lines) bytes) (hbytes : d.readBytes path = .ok bytes) :
    let search : Search := ⟨plan.registry.styleOf (Path.extension path), plan.marker, sourceFile⟩
    let run := (plan.withAccess (d.access followLinks codecs)).scanFile path sourceFile
    d.readText path plan.encoding codecs = .ok ⟨Text.fed closed lines, none⟩ ∧
      run.failure = none ∧ run.tags = scanLines search lines ∧
      ∀ (clean : Disk) (closed' : Bool),
        clean.readBytes path = .ok (Utf8.encode (LineEnd.lineFeed.join closed' lines)) →
        (plan.withAccess (clean.access followLinks codecs)).scanFile path sourceFile = run := by
  intro search run
  have hscan : ∀ {d : Disk} {closed : Bool},
      d.readText path plan.encoding codecs = .ok ⟨Text.fed closed lines, none⟩ →
      (plan.withAccess (d.access followLinks codecs)).scanFile path sourceFile =
        (⟨[.opened path], none⟩ : WalkRun).andThen (scanReading search ⟨lines, none⟩) := by
    intro d closed hread
    rw [← scanReading_fed search closed lines]
    simp only [WalkPlan.scanFile, WalkPlan.withAccess, Disk.access, hread]
    rfl
  have hread := Disk.readText_of_strewn hname hzero hlines hstrewn hbytes codecs
  have hrun : run = _ := hscan hread
  refine ⟨hread, ?_, ?_, ?_⟩
  · rw [hrun]
    rfl
  · rw [hrun, WalkRun.tags_andThen rfl, tags_scanReading]
    rfl
  · intro clean closed' hclean
    have hread' := Disk.readText_of_strewn hname hzero hlines (Utf8.strewn_encode _) hclean codecs
    rw [hrun, hscan hread']

def strewnBytes : List UInt8 :=
  0xFF :: (Utf8.encode "# @TODO café\r".toList ++
    0xC0 :: Utf8.encode "\n# au lait\r\n".toList)

def strewnDisk : Disk := ⟨.dir [("a.py".toList, .file strewnBytes)], []⟩

theorem scanFile_of_strewn_strewnDisk :
    let plan : WalkPlan := { access := strewnDisk.access false, marker := "@TODO".toList }
    let path : Text := "a.py".toList
    let lines : List Text := ["# @TODO café", "# au lait", ""].map String.toList
    let clean : Disk := ⟨.dir [(path, .file (Utf8.encode (LineEnd.lineFeed.join true lines)))], []⟩
    Encoding.ofFileName? plan.encoding = some .utf8 ∧ Failure.zero ∉ plan.encoding ∧
      (∀ l ∈ lines, '\r' ∉ l ∧ '\n' ∉ l) ∧
      Utf8.Strewn (LineEnd.both.join false lines) strewnBytes ∧
      strewnDisk.readBytes path = .ok strewnBytes ∧
      strewnDisk.readText path plan.encoding =
        .ok ⟨["# @TODO café\n", "# au lait\n"].map String.toList, none⟩ ∧
      (plan.scanFile path path).tags =
        [⟨"@TODO".toList, "café".toList, "au lait".toList, path, 1⟩] ∧
      (plan.withAccess (clean.access false)).scanFile path path = plan.scanFile path path := by
  intro plan path lines clean
  have hname : Encoding.ofFileName? plan.encoding = some .utf8 := by decide +kernel
  have hzero : Failure.zero ∉ plan.encoding := by decide
  have hlines : ∀ l ∈ lines, '\r' ∉ l ∧ '\n' ∉ l := by decide +kernel
  have hback : Utf8.Strewn "\n# au lait\r\n".toList
      (0xC0 :: Utf8.encode "\n# au lait\r\n".toList) := .stray (by decide) (Utf8.strewn_encode _)
  have hstrewn : Utf8.Strewn (LineEnd.both.join false lines) strewnBytes := by
    have hjoin : LineEnd.both.join false lines =
        "# @TODO café\r".toList ++ "\n# au lait\r\n".toList := by decide +kernel
    rw [hjoin]
    exact .stray (by decide) (hback.append _)
  have hbytes : strewnDisk.readBytes path = .ok strewnBytes := rfl
  obtain ⟨hread, -, htags, hclean⟩ :=
    scanFile_of_strewn plan false {} path hname hzero hlines hstrewn hbytes
  refine ⟨hname, hzero, hlines, hstrewn, hbytes, hread, ?_, hclean clean true rfl⟩
  exact htags.trans (by decide +kernel)

end CommentTags
