import CommentTags.Proofs.Tag.Origin
import CommentTags.Proofs.Text.Digits
import CommentTags.Proofs.Text.Split
import CommentTags.Report

namespace CommentTags

namespace Text

def cutLast (d : Char) (s : Text) : Text × Text :=
  let pieces := splitOn d s
  ([d].intercalate pieces.dropLast, pieces.getLast?.getD [])

theorem cutLast_append {d : Char} {t : Text} (h : d ∉ t) (s : Text) :
    cutLast d (s ++ d :: t) = (s, t) := by
  rw [cutLast, splitOn_append, splitOn_of_not_mem h, List.dropLast_concat, List.getLast?_concat,
    intercalate_splitOn]
  rfl

theorem cutLast_of_not_mem {d : Char} {t : Text} (h : d ∉ t) : cutLast d t = ([], t) := by
  rw [cutLast, splitOn_of_not_mem h]
  rfl

def intValue : Text → ℤ
  | '-' :: ds => -digitsValue ds
  | ds => digitsValue ds

theorem intValue_ofInt (n : ℤ) : intValue (ofInt n) = n := by
  cases n with
  | negSucc n =>
    rw [ofInt, intValue, digitsValue_ofNat]
    rfl
  | ofNat n =>
    rw [ofInt, intValue, digitsValue_ofNat]
    · rfl
    · intro ds hds
      have hdigit : isDigit '-' = true := isDigit_of_mem_ofNat (hds ▸ List.mem_cons_self)
      cases hdigit

theorem isDigit_of_mem_ofInt {n : ℤ} {c : Char} (h : c ∈ ofInt n) : c = '-' ∨ isDigit c = true := by
  cases n with
  | ofNat n => exact .inr (isDigit_of_mem_ofNat h)
  | negSucc n =>
    rcases List.mem_cons.mp h with rfl | h
    · exact .inl rfl
    · exact .inr (isDigit_of_mem_ofNat h)

end Text

structure Finding where
  title : Text
  description : Text
  sourceFile : Text
  lineNumber : ℤ
deriving DecidableEq, Repr

namespace Tag

def finding (t : Tag) : Finding := ⟨t.title, t.description, t.sourceFile, t.lineNumber⟩

def place (t : Tag) : Text := t.sourceFile ++ ':' :: Text.ofInt t.lineNumber

end Tag

namespace Issue

/-- Reads what an issue is about: the place is its last line, and the description all before the
empty line above it. -/
def finding (i : Issue) : Finding :=
  let (above, last) := Text.cutLast '\n' i.body
  let (file, number) := Text.cutLast ':' (last.drop "Location: ".length)
  ⟨i.title, above.dropLast, file, Text.intValue number⟩

end Issue

namespace Tag

theorem cutLast_place (t : Tag) :
    Text.cutLast ':' t.place = (t.sourceFile, Text.ofInt t.lineNumber) := by
  refine Text.cutLast_append ?_ t.sourceFile
  intro h
  rcases Text.isDigit_of_mem_ofInt h with h | h <;> cases h

theorem newLine_not_mem_place {t : Tag} (h : '\n' ∉ t.sourceFile) :
    '\n' ∉ "Location: ".toList ++ t.place := by
  have hlabel : '\n' ∉ "Location: ".toList := by decide
  have hnumber : '\n' ∉ Text.ofInt t.lineNumber := by
    intro h
    rcases Text.isDigit_of_mem_ofInt h with h | h <;> cases h
  have hcolon : '\n' ∉ ':' :: Text.ofInt t.lineNumber :=
    List.not_mem_cons_of_ne_of_not_mem (by decide) hnumber
  exact List.not_mem_append hlabel (List.not_mem_append h hcolon)

theorem cutLast_body {t : Tag} (h : '\n' ∉ t.sourceFile) :
    Text.cutLast '\n' t.issue.body =
      (if t.description.isEmpty then [] else t.description ++ ['\n'],
        "Location: ".toList ++ t.place) := by
  have hplace := newLine_not_mem_place h
  have hempty : "\n\n".toList = ['\n', '\n'] := rfl
  rw [issue, hempty]
  generalize "Location: ".toList = label at hplace ⊢
  dsimp only
  rw [List.append_assoc label]
  split
  · exact Text.cutLast_of_not_mem hplace
  · rw [List.append_assoc, List.cons_append, List.cons_append, List.nil_append, List.append_cons]
    exact Text.cutLast_append hplace _

theorem finding_issue {t : Tag} (h : '\n' ∉ t.sourceFile) : t.issue.finding = t.finding := by
  have hdescription :
      (if t.description.isEmpty then [] else t.description ++ ['\n']).dropLast =
        t.description := by
    split
    · rename_i hempty
      exact (List.isEmpty_iff.mp hempty).symm
    · exact List.dropLast_concat
  have hdrop : ("Location: ".toList ++ t.place).drop "Location: ".length = t.place :=
    List.drop_left' rfl
  rw [Issue.finding, cutLast_body h]
  simp only [hdrop, cutLast_place, hdescription, Text.intValue_ofInt]
  rfl

theorem issue_eq_iff {t t' : Tag} (h : '\n' ∉ t.sourceFile) (h' : '\n' ∉ t'.sourceFile) :
    t.issue = t'.issue ↔
      t.title = t'.title ∧ t.description = t'.description ∧ t.sourceFile = t'.sourceFile ∧
        t.lineNumber = t'.lineNumber := by
  constructor
  · intro hissue
    have hfinding : t.finding = t'.finding := by
      rw [← finding_issue h, ← finding_issue h', hissue]
    simpa [finding] using hfinding
  · rintro ⟨htitle, hdescription, hfile, hnumber⟩
    rw [issue, issue, htitle, hdescription, hfile, hnumber]

end Tag

/-- The issue of a tag tells what it is about unless the path has a line feed. So the issues of a
scan, in their order, tell the titles, descriptions, files and lines of its tags, and they are
equal only where these are. -/
theorem issues_lossless :
    (∀ t : Tag, '\n' ∉ t.sourceFile → t.issue.finding = t.finding) ∧
    (∀ (search search' : Search) (lines lines' : List Text),
      '\n' ∉ search.sourceFile → '\n' ∉ search'.sourceFile →
      ∀ t ∈ scanLines search lines, ∀ t' ∈ scanLines search' lines',
        t.issue = t'.issue ↔
          t.title = t'.title ∧ t.description = t'.description ∧
            t.sourceFile = t'.sourceFile ∧ t.lineNumber = t'.lineNumber) ∧
    ∀ ts : List Tag, (∀ t ∈ ts, '\n' ∉ t.sourceFile) →
      (ts.map Tag.issue).map Issue.finding = ts.map Tag.finding := by
  refine ⟨fun t => Tag.finding_issue, ?_, ?_⟩
  · intro search search' lines lines' h h' t ht t' ht'
    rw [← sourceFile_of_mem_scanLines ht] at h
    rw [← sourceFile_of_mem_scanLines ht'] at h'
    exact Tag.issue_eq_iff h h'
  · intro ts hts
    rw [List.map_map]
    exact List.map_congr_left (fun t ht => Tag.finding_issue (hts t ht))

def misleadingLines : List Text :=
  ["// @TODO split", "// Location: a.c:7", "", "int x; // @TODO", "// @TODO name"].map String.toList

def misleadingSearch : Search := ⟨.cFamily, "@TODO".toList, "lib/a:b.c".toList⟩

theorem issues_lossless_misleadingLines :
    let ts := scanLines misleadingSearch misleadingLines
    '\n' ∉ misleadingSearch.sourceFile ∧
      ts.map (fun t => t.issue.body) =
        ["Location: a.c:7\n\nLocation: lib/a:b.c:1", "Location: lib/a:b.c:5"].map String.toList ∧
      (ts.map Tag.issue).map Issue.finding =
        [⟨"split".toList, "Location: a.c:7".toList, "lib/a:b.c".toList, 1⟩,
          ⟨"name".toList, [], "lib/a:b.c".toList, 5⟩] := by
  intro ts
  have hfile : '\n' ∉ misleadingSearch.sourceFile := by decide
  have hfiles : ∀ t ∈ ts, '\n' ∉ t.sourceFile := by
    intro t ht
    rwa [sourceFile_of_mem_scanLines ht]
  refine ⟨hfile, by decide +kernel, (issues_lossless.2.2 ts hfiles).trans (by decide +kernel)⟩

end CommentTags
