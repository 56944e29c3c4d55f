import CommentTags.Proofs.File.Appending
import CommentTags.Proofs.Journal.Handlers

namespace CommentTags

namespace Disk

theorem contents_logged {d : Disk} {path : Text} (hcwd : d.HasCwd) (h : d.Appendable path)
    (room : ℕ) (lines : List LogLine) :
    (lines.foldl (logged (some path) room) d).contents path =
      d.contents path ++ lines.flatMap (LogLine.bytes room) := by
  induction lines generalizing d with
  | nil => exact (List.append_nil _).symm
  | cons line lines ih =>
    obtain ⟨d', hwrite, hcwd', hopen, hcontents⟩ := exists_append hcwd h (line.bytes room)
    have hlogged : logged (some path) room d line = d' := by
      rw [logged, hwrite]
      rfl
    rw [List.foldl_cons, hlogged, ih hcwd' hopen, hcontents, List.flatMap_cons, List.append_assoc]

end Disk

namespace Session

theorem foldl_keep (s : Session) (lines : List LogLine) :
    lines.foldl keep s =
      { s with disk := lines.foldl (Disk.logged s.outlets.file s.host.writingRoom) s.disk } := by
  induction lines generalizing s with
  | nil => rfl
  | cons line lines ih => rw [List.foldl_cons, List.foldl_cons, ih, keep_eq]

theorem act_eq (s : Session) (action : LogAction) :
    (s.act action).1 =
      { s with
        outlets := (s.outlets.act action).outlets
        emitted := s.emitted ++ (s.outlets.act action).shown.map .log
        disk := (s.outlets.act action).kept.foldl
          (Disk.logged s.outlets.file s.host.writingRoom) s.disk } := by
  rw [← s.outlets.file_act action]
  exact foldl_keep _ _

end Session

end CommentTags
