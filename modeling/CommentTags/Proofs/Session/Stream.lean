import CommentTags.Proofs.File.Utf8
import CommentTags.Proofs.Journal.Lines
import CommentTags.Proofs.Session.LogFile

namespace CommentTags

namespace LogLine

variable {room : ℕ} {lines : List LogLine}

def written (room : ℕ) (lines : List LogLine) : List LogLine :=
  lines.filter (fun l => (l.serialize room).isOk)

theorem written_of_fits (h : ∀ l ∈ lines, l.Fits room) : written room lines = lines :=
  List.filter_eq_self.mpr fun l hl => by rw [(h l hl).serialize]; rfl

theorem bytes_eq_nil_or (room : ℕ) (l : LogLine) :
    (l.serialize room).isOk = false ∧ l.bytes room = [] ∨
      (l.serialize room).isOk = true ∧ l.bytes room = Utf8.encode (l.text ++ ['\n']) := by
  cases hserialize : l.serialize room with
  | error obstacle => exact .inl ⟨rfl, bytes_of_obstacle hserialize⟩
  | ok text =>
    have htext : text = l.text := Json.eq_line_of_serialize hserialize
    exact .inr ⟨rfl, htext ▸ bytes_of_serialize hserialize⟩

theorem flatMap_bytes (room : ℕ) (lines : List LogLine) :
    lines.flatMap (bytes room) =
      Utf8.encode (Json.stream ((written room lines).map document)) := by
  induction lines with
  | nil => rfl
  | cons l lines ih =>
    rw [List.flatMap_cons, ih]
    rcases bytes_eq_nil_or room l with ⟨hlost, hbytes⟩ | ⟨hkept, hbytes⟩
    · have hwritten : written room (l :: lines) = written room lines :=
        List.filter_cons_of_neg (by simp [hlost])
      rw [hbytes, hwritten, List.nil_append]
    · have hwritten : written room (l :: lines) = l :: written room lines :=
        List.filter_cons_of_pos hkept
      rw [hbytes, hwritten, Utf8.encode, Utf8.encode, ← List.flatMap_append]
      rfl

end LogLine

namespace Session

/-- A record with plain values is written down exactly if no number in it is too long and nothing
lies too deep, for which it is enough that this holds of what is bound to it and of its own numbers.
Then it is one line of visible ASCII characters and spaces, which tells all of the record and which
no other object has, and it is read back wherever there is room for it. What a log file gains are
the lines of the records that can be written down, and they tell which ones these were. -/
theorem keeps_lossless :
    (∀ l : LogLine, l.IsPlain →
      (∀ room, l.serialize room = .ok l.text ↔ l.Fits room) ∧
      (∀ room, ¬ l.Fits room → ∃ obstacle, l.serialize room = .error obstacle) ∧
      (∀ room, Json.Plain Json.IsShort (room + 2) (.object l.extra) → Json.IsShort l.time →
        Json.IsShort l.process → l.Fits (room + 2)) ∧
      (∀ c ∈ l.text, Json.IsVisible c) ∧
      l.ToldBy l.members ∧
      (∀ j : Json, j.IsPlain → j.line = l.text → j = .object l.members) ∧
      (∀ room, l.Fits room → Json.parse l.text room = .ok (.object l.members))) ∧
    ∀ (s : Session) (path : Text) (lines : List LogLine), s.outlets.file = some path →
      s.disk.HasCwd → s.disk.Appendable path → (∀ l ∈ lines, l.IsPlain) →
      let written := LogLine.written s.host.writingRoom lines
      ((∀ l ∈ lines, l.Fits s.host.writingRoom) → written = lines) ∧
      ∃ kept, (lines.foldl keep s).disk.contents path =
          s.disk.contents path ++ Utf8.encode kept ∧
        (s.disk.contents path = [] →
          Utf8.strict ((lines.foldl keep s).disk.contents path) = .ok kept) ∧
        Text.splitOn '\n' kept = written.map LogLine.text ++ [[]] ∧
        (∀ docs : List Json, (∀ j ∈ docs, j.IsPlain) → Json.stream docs = kept →
          docs = written.map (fun l => .object l.members)) ∧
        ∀ room, (∀ l ∈ written, l.Fits room) →
          (Text.splitOn '\n' kept).dropLast.map (Json.parse · room) =
            written.map (fun l => .ok (.object l.members)) := by
  refine ⟨fun l hl => ⟨hl.serialize_eq_ok_iff, fun room => hl.exists_obstacle,
    fun room => LogLine.fits_of_extra, hl.document.isVisible_of_mem_line,
    LogLine.toldBy_members hl.nodup, fun j hj hline => hj.eq_of_line_eq hl.document hline,
    fun room => LogLine.Fits.parse_text⟩, ?_⟩
  intro s path lines hpath hcwd hopen hplain written
  have hdocs : ∀ j ∈ written.map LogLine.document, j.IsPlain := by
    rw [List.forall_mem_map]
    exact fun l hl => (hplain l (List.mem_filter.mp hl).1).document
  have hsplit : Text.splitOn '\n' (Json.stream (written.map LogLine.document)) =
      written.map LogLine.text ++ [[]] := by
    rw [Json.splitOn_stream hdocs, List.map_map]
    rfl
  have hcontents : (lines.foldl keep s).disk.contents path =
      s.disk.contents path ++ Utf8.encode (Json.stream (written.map LogLine.document)) := by
    rw [foldl_keep, hpath, Disk.contents_logged hcwd hopen, LogLine.flatMap_bytes]
  refine ⟨LogLine.written_of_fits, _, hcontents, fun hempty => ?_, hsplit, ?_, ?_⟩
  · rw [hcontents, hempty, List.nil_append, Utf8.strict_encode]
  · intro docs hplain' hstream
    exact Json.stream_injective hplain' hdocs hstream
  · intro room hfits
    rw [hsplit, List.dropLast_concat, List.map_map]
    exact List.map_congr_left fun l hl => (hfits l hl).parse_text

end Session

def thornyLine : LogLine where
  level := "INFO".toList
  time := 1500
  message := "two\nlines of \"é\"".toList
  process := 7
  source := some "walker".toList
  extra := [("level".toList, .int 5), ("a\r\nb".toList, .list [.text "\n".toList, .bool true]),
    ("err".toList, .null)]
  incident := some ⟨none, some "no\nentry".toList⟩

theorem isPlain_thornyLine : thornyLine.IsPlain := by
  refine ⟨2, .object (by decide) ?_⟩
  intro m hm
  simp only [thornyLine, List.mem_cons, List.not_mem_nil, or_false] at hm
  rcases hm with rfl | rfl | rfl
  · exact .int _ trivial
  · refine .list fun x hx => ?_
    simp only [List.mem_cons, List.not_mem_nil, or_false] at hx
    rcases hx with rfl | rfl
    · exact .text _ _
    · exact .bool _ _
  · exact .null _

def sessionWithLog : Session where
  disk := ⟨.dir [], []⟩
  outlets := { console := none, file := some "log.json".toList }
  env := []

theorem Session.keeps_lossless_thornyLine :
    thornyLine.IsPlain ∧ sessionWithLog.disk.HasCwd ∧
      sessionWithLog.disk.Appendable "log.json".toList ∧
      thornyLine.serialize sessionWithLog.host.writingRoom = .ok thornyLine.text ∧
      thornyLine.members.map Prod.fst = ["level".toList, "time".toList, "msg".toList,
        "pid".toList, "module".toList, "a\r\nb".toList, "err".toList] ∧
      thornyLine.members.lookup "level".toList = some (.int 5) ∧
      ∃ kept, ([thornyLine, thornyLine].foldl Session.keep sessionWithLog).disk.contents
          "log.json".toList = Utf8.encode kept ∧
        (Text.splitOn '\n' kept).dropLast.map (Json.parse · 2) =
          [.ok (.object thornyLine.members), .ok (.object thornyLine.members)] := by
  have hplain := isPlain_thornyLine
  have hcwd : sessionWithLog.disk.HasCwd := ⟨[], rfl⟩
  have hopen : sessionWithLog.disk.Appendable "log.json".toList := ⟨_, rfl⟩
  obtain ⟨hline, hfile⟩ := Session.keeps_lossless
  obtain ⟨hwritten, -, -, -, htold, -, -⟩ := hline thornyLine hplain
  have hserialize : ∀ room, 2 ≤ room → thornyLine.serialize room = .ok thornyLine.text := by
    intro room hroom
    obtain ⟨room, rfl⟩ := Nat.exists_eq_add_of_le' hroom
    rfl
  have hroom : 2 ≤ sessionWithLog.host.writingRoom := by decide
  have hlines : ∀ room, 2 ≤ room → ∀ l ∈ [thornyLine, thornyLine], l.Fits room := by
    intro room hroom l hl
    obtain rfl : l = thornyLine := by simpa using hl
    exact (hwritten room).mp (hserialize room hroom)
  obtain ⟨hall, kept, hkept, -, -, -, hparse⟩ := hfile sessionWithLog "log.json".toList
    [thornyLine, thornyLine] rfl hcwd hopen (by simp [hplain])
  rw [hall (hlines _ hroom)] at hparse
  refine ⟨hplain, hcwd, hopen, hserialize _ hroom, ?_, ?_, kept, hkept,
    hparse 2 (hlines 2 (Nat.le_refl 2))⟩
  · rw [htold.order]
    decide
  · exact htold.extra _ _ rfl (fun he => absurd he (by decide))

def numberLine (n : ℤ) : LogLine where
  level := "INFO".toList
  time := 0
  message := "counted".toList
  process := 1
  source := none
  extra := [("n".toList, .int n)]

theorem isPlain_numberLine (n : ℤ) : (numberLine n).IsPlain :=
  ⟨1, .object (List.nodup_singleton _) (List.forall_mem_singleton.mpr (.int _ trivial))⟩

theorem serialize_numberLine {n : ℤ} (h : ¬ Json.IsShort n) (room : ℕ) :
    (numberLine n).serialize (room + 1) = .error .hugeInteger := by
  have hlong : Text.digitLimit < (Text.ofNat n.natAbs).length := Nat.not_le.mp h
  have htime : ¬ Text.digitLimit < (Text.ofNat 0).length := by decide
  have hprocess : ¬ Text.digitLimit < (Text.ofNat 1).length := by decide
  have hmembers : (numberLine n).members =
      (numberLine n).ownMembers ++ [("n".toList, .int n)] := rfl
  have hobstacle : (numberLine n).document.obstacle? (room + 1) = some .hugeInteger := by
    rw [LogLine.document, hmembers, Json.obstacle?]
    simp [LogLine.ownMembers, numberLine, Json.memberObstacle?, Json.obstacle?, htime, hprocess,
      hlong]
  rw [LogLine.serialize, Json.serialize, hobstacle]

def sessionWithHeading : Session :=
  { sessionWithLog with
    disk := ⟨.dir [("log.json".toList, .file (Utf8.encode "# scan log\n".toList))], []⟩ }

/-- A number of 4301 digits is not written, and its record leaves nothing in the log file. Nor is a
log file only what is appended to it: it can start with a line that is no document. -/
theorem Session.keep_numberLine :
    (numberLine (10 ^ 4300)).IsPlain ∧
      (numberLine (10 ^ 4300)).serialize Json.usualRoom = .error .hugeInteger ∧
      (sessionWithLog.keep (numberLine (10 ^ 4300))).disk.contents "log.json".toList = [] ∧
      (numberLine 1).IsPlain ∧
      (sessionWithHeading.keep (numberLine 1)).disk.contents "log.json".toList =
        Utf8.encode ("# scan log\n".toList ++ (numberLine 1).text ++ ['\n']) ∧
      (Json.parse "# scan log".toList).isOk = false := by
  have hlost : (numberLine (10 ^ 4300)).serialize Json.usualRoom = .error .hugeInteger :=
    serialize_numberLine (Json.not_isShort_pow (Nat.le_refl 4300)) 987
  refine ⟨isPlain_numberLine _, hlost, ?_, isPlain_numberLine 1, by decide +kernel,
    by decide +kernel⟩
  have hbytes : (numberLine (10 ^ 4300)).bytes sessionWithLog.host.writingRoom = [] :=
    LogLine.bytes_of_obstacle hlost
  have hkeep : (sessionWithLog.keep (numberLine (10 ^ 4300))).disk =
      Disk.logged (some "log.json".toList) sessionWithLog.host.writingRoom sessionWithLog.disk
        (numberLine (10 ^ 4300)) := by
    rw [keep_eq]
    rfl
  rw [hkeep, Disk.logged, hbytes]
  decide +kernel

end CommentTags
