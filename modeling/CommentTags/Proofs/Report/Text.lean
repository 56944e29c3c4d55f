import CommentTags.Proofs.File.Utf8
import CommentTags.Proofs.File.Writing
import CommentTags.Proofs.Json.Characters
import CommentTags.Proofs.Text.LineEnds
import CommentTags.Report
import CommentTags.Settings

namespace CommentTags

open Json (Plain IsShort IsVisible)

def IsAscii (s : Text) : Prop := ∀ c ∈ s, c.toNat < 0x80

theorem Disk.pathExists_of_readBytes {disk : Disk} {path : Text} {bytes : List UInt8}
    (h : disk.readBytes path = .ok bytes) : disk.pathExists path = .ok true := by
  unfold readBytes checked at h
  unfold pathExists
  split at h
  · cases h
  · split at h
    · rename_i hnode
      rw [hnode]
    · cases h
    · cases h

namespace Report

structure HasShortNumbers (r : Report) : Prop where
  total : IsShort r.tags.length
  lineNumbers : ∀ t ∈ r.tags, IsShort t.lineNumber

end Report

section Plain

variable {admits : ℤ → Prop}

theorem Tag.plain_json {t : Tag} (h : admits t.lineNumber) (depth : ℕ) :
    Plain admits (depth + 1) t.json := by
  refine .object ?_ ?_
  · show ["annotation", "title", "description", "source_file", "line_number"].map String.toList
      |>.Nodup
    decide
  · simp only [List.forall_mem_cons]
    exact ⟨.text depth _, .text depth _, .text depth _, .text depth _, .int depth h,
      List.forall_mem_nil _⟩

theorem Report.plain_json {r : Report} (htotal : admits r.tags.length)
    (hlines : ∀ t ∈ r.tags, admits t.lineNumber) (depth : ℕ) :
    Plain admits (depth + 3) r.json := by
  have htags : Plain admits (depth + 2) (.list (r.tags.map Tag.json)) := by
    refine .list (List.forall_mem_map.mpr fun t ht => ?_)
    exact Tag.plain_json (hlines t ht) depth
  refine .object ?_ ?_
  · show ["root", "annotation", "total", "tags"].map String.toList |>.Nodup
    decide
  · simp only [List.forall_mem_cons]
    exact ⟨.text _ _, .text _ _, .int _ htotal, htags, List.forall_mem_nil _⟩

end Plain

theorem Tag.json_injective : Function.Injective Tag.json := by
  rintro ⟨_, _, _, _, _⟩ ⟨_, _, _, _, _⟩ h
  simpa [Tag.json] using h

namespace Report

theorem json_injective : Function.Injective Report.json := by
  rintro ⟨root, marker, tags⟩ ⟨root', marker', tags'⟩ h
  simp only [json, Json.object.injEq, List.cons.injEq, Prod.mk.injEq, Json.text.injEq,
    Json.list.injEq, true_and, and_true] at h
  obtain ⟨rfl, rfl, -, htags⟩ := h
  rw [List.map_injective_iff.mpr Tag.json_injective htags]

theorem forall_mem_text (r : Report) : ∀ c ∈ r.text, IsVisible c ∨ c = '\n' := by
  have hplain : Plain (fun _ => True) 3 r.json := plain_json trivial (fun _ _ => trivial) 0
  have hnewLine : ∀ level, ∀ c ∈ (Json.Layout.indented 2).newLine level,
      IsVisible c ∨ c = '\n' := by
    intro level
    refine List.forall_mem_cons.mpr ⟨.inr rfl, fun c hc => .inl ?_⟩
    rw [List.eq_of_mem_replicate hc]
    decide
  have hpage := Json.forall_mem_write (fun _ => .inl) hnewLine hplain 0
  refine List.forall_mem_append.mpr ⟨hpage, ?_⟩
  exact List.forall_mem_singleton.mpr (.inr rfl)

theorem isAscii_text (r : Report) : IsAscii r.text := by
  intro c hc
  rcases r.forall_mem_text c hc with ⟨-, h⟩ | rfl
  · omega
  · decide

theorem unifyLineEnds_text (r : Report) : r.text.unifyLineEnds = r.text := by
  apply Text.unifyLineEnds_eq_self
  intro h
  rcases r.forall_mem_text _ h with h | h
  · revert h
    decide
  · cases h

theorem text_eq (r : Report) : ∃ front, r.text = front ++ ['\x7d', '\n'] := by
  rw [text, Json.page, json, Json.write, ← List.cons_append, List.append_assoc]
  exact ⟨_, rfl⟩

theorem parse_text {r : Report} (h : r.HasShortNumbers) {room : ℕ} (hroom : 3 ≤ room) :
    Json.parse r.text room = .ok r.json := by
  obtain ⟨room, rfl⟩ := Nat.exists_eq_add_of_le' hroom
  exact Json.parse_write (plain_json h.total h.lineNumbers room) (.indented 2) 0 (by decide)

theorem text_injective {r r' : Report} (h : r.HasShortNumbers) (h' : r'.HasShortNumbers)
    (htext : r.text = r'.text) : r = r' := by
  have hparse := parse_text h (Nat.le_refl 3)
  rw [htext, parse_text h' (Nat.le_refl 3)] at hparse
  exact (json_injective (Except.ok.inj hparse)).symm

theorem readDocument_of_readBytes {r : Report} (h : r.HasShortNumbers) {room : ℕ}
    (hroom : 3 ≤ room) {disk : Disk} {path : Text}
    (hbytes : disk.readBytes path = .ok (Utf8.encode r.text)) :
    Settings.readDocument disk path room = .ok (.ok (some r.json)) := by
  have hexists := Disk.pathExists_of_readBytes hbytes
  simp only [Settings.readDocument, hexists, hbytes, Utf8.strict_encode,
    unifyLineEnds_text, parse_text h hroom]

theorem exists_of_save {r : Report} {disk : Disk} {path : Text} {saved : Saved}
    (h : r.save disk path = .ok saved) : saved.path = Path.tidy path ∧
      ∃ made, disk.ensureDir (Path.parent (Path.tidy path)) = .ok made ∧
        made.writeBytes false (Path.tidy path) (Utf8.encode r.text) = .ok saved.disk := by
  simp only [save, bind, Except.bind] at h
  cases hdirs : disk.ensureDir (Path.parent (Path.tidy path)) with
  | error failure =>
    rw [hdirs] at h
    cases h
  | ok made =>
    rw [hdirs] at h
    cases hwrite : made.writeBytes false (Path.tidy path) (Utf8.encode r.text) with
    | error failure =>
      simp only [hwrite] at h
      cases h
    | ok written =>
      simp only [hwrite] at h
      obtain rfl := Except.ok.inj h
      exact ⟨rfl, made, rfl, hwrite⟩

theorem grows_save {r : Report} {disk : Disk} (hcwd : disk.HasCwd) {path : Text} {saved : Saved}
    (h : r.save disk path = .ok saved) : disk.Grows saved.disk := by
  obtain ⟨-, made, hmade, hwrite⟩ := exists_of_save h
  have hdirs := Disk.grows_of_makeDirs hcwd hmade
  exact hdirs.trans (Disk.grows_of_writeBytes (hdirs.hasCwd hcwd) hwrite)

theorem readBytes_save {r : Report} {disk : Disk} (hcwd : disk.HasCwd) {path : Text}
    {saved : Saved} (h : r.save disk path = .ok saved) :
    saved.disk.readBytes saved.path = .ok (Utf8.encode r.text) := by
  obtain ⟨hpath, made, hmade, hwrite⟩ := exists_of_save h
  rw [hpath]
  exact Disk.readBytes_of_writeBytes ((Disk.grows_of_makeDirs hcwd hmade).hasCwd hcwd) hwrite

/-- The text of a report loses nothing. It is ASCII and ends with one line feed; it is read back as
the document it was written from, wherever three containers can lie in one another, also from the
file that it was saved to; and two reports never have the same text. All this takes is that its
numbers can be read, that of its tags being one. -/
theorem text_lossless {r : Report} (htotal : IsShort r.tags.length)
    (hlines : ∀ t ∈ r.tags, IsShort t.lineNumber) :
    IsAscii r.text ∧ (∃ front, r.text = front ++ ['\x7d', '\n']) ∧
      (∀ room, 3 ≤ room → Json.parse r.text room = .ok r.json) ∧
      (∀ room disk path, 3 ≤ room → disk.readBytes path = .ok (Utf8.encode r.text) →
        Settings.readDocument disk path room = .ok (.ok (some r.json))) ∧
      (∀ room disk path saved, 3 ≤ room → disk.HasCwd → r.save disk path = .ok saved →
        Settings.readDocument saved.disk saved.path room = .ok (.ok (some r.json))) ∧
      r.json.member? "total".toList = some (.int r.tags.length) ∧
      r.json.member? "tags".toList = some (.list (r.tags.map Tag.json)) ∧
      ∀ r' : Report, r'.HasShortNumbers → r'.text = r.text → r' = r := by
  have hshort : r.HasShortNumbers := ⟨htotal, hlines⟩
  refine ⟨r.isAscii_text, r.text_eq, fun room hroom => parse_text hshort hroom, ?_, ?_, rfl, rfl,
    ?_⟩
  · exact fun room disk path hroom hbytes => readDocument_of_readBytes hshort hroom hbytes
  · exact fun room disk path saved hroom hcwd hsave =>
      readDocument_of_readBytes hshort hroom (readBytes_save hcwd hsave)
  · exact fun r' hr' htext => text_injective hr' hshort htext

def thorny : Report where
  root := "/tmp/'''\"\"\"".toList
  marker := "#<!--".toList
  tags :=
    [⟨"@TODO".toList, "say \"no\" \\ // /* */".toList, "two\nlines\x7f, \u2028 and 😀 -->".toList,
        "é.py".toList, -12⟩,
      ⟨"#".toList, [], [], "\"\"\"".toList, 0⟩]

theorem text_lossless_thorny :
    IsShort thorny.tags.length ∧ (∀ t ∈ thorny.tags, IsShort t.lineNumber) ∧
      IsAscii thorny.text ∧ Json.parse thorny.text = .ok thorny.json := by
  have htotal : IsShort thorny.tags.length := by decide
  have hlines : ∀ t ∈ thorny.tags, IsShort t.lineNumber := by decide
  obtain ⟨hascii, -, hparse, -⟩ := text_lossless htotal hlines
  exact ⟨htotal, hlines, hascii, hparse Json.usualRoom (by decide)⟩

end Report

end CommentTags
