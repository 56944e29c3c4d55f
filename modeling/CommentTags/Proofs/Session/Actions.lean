import CommentTags.Session
import Mathlib.Logic.Basic

namespace CommentTags

def Disk.logged (file : Option Text) (room : Nat) (d : Disk) (line : LogLine) : Disk :=
  match file with
  | none => d
  | some path => (d.writeBytes true path (line.bytes room)).toOption.getD d

def Disk.LoggedTo (d : Disk) (file : Option Text) (room : Nat) (later : Disk) : Prop :=
  ∃ lines : List LogLine, later = lines.foldl (Disk.logged file room) d

namespace Disk.LoggedTo

variable {d d' d'' : Disk} {file : Option Text} {room : Nat}

theorem refl (d : Disk) (file : Option Text) (room : Nat) : d.LoggedTo file room d := ⟨[], rfl⟩

theorem trans (h : d.LoggedTo file room d') (h' : d'.LoggedTo file room d'') :
    d.LoggedTo file room d'' := by
  obtain ⟨lines, rfl⟩ := h
  obtain ⟨lines', rfl⟩ := h'
  exact ⟨lines ++ lines', (List.foldl_append).symm⟩

end Disk.LoggedTo

theorem Outlets.file_act (o : Outlets) (action : LogAction) :
    (o.act action).outlets.file = o.file := by
  unfold act
  split
  · split
    · rfl
    · split <;> rfl
  · split <;> rfl

namespace Session

/-- The way from one session to a later one, when the given text was printed and nothing but log
lines written. -/
structure Reaches (s : Session) (printed : Text) (t : Session) : Prop where
  out : t.out = s.out ++ printed
  env : t.env = s.env
  host : t.host = s.host
  file : t.outlets.file = s.outlets.file
  disk : s.disk.LoggedTo s.outlets.file s.host.writingRoom t.disk

theorem Reaches.refl (s : Session) : s.Reaches [] s :=
  ⟨(List.append_nil _).symm, rfl, rfl, rfl, .refl _ _ _⟩

theorem Reaches.trans {s t u : Session} {a b : Text} (h : s.Reaches a t) (h' : t.Reaches b u) :
    s.Reaches (a ++ b) u where
  out := by rw [h'.out, h.out, List.append_assoc]
  env := h'.env.trans h.env
  host := h'.host.trans h.host
  file := h'.file.trans h.file
  disk := h.disk.trans (h.file ▸ h.host ▸ h'.disk)

theorem reaches_emit (s : Session) (es : List Emission) :
    s.Reaches (es.filterMap Emission.out?).flatten (s.emit es) :=
  ⟨s.out_emit es, rfl, rfl, rfl, .refl _ _ _⟩

theorem reaches_print (s : Session) (text : Text) : s.Reaches text (s.emit [.out text]) := by
  simpa [Emission.out?] using s.reaches_emit [.out text]

theorem keep_eq (s : Session) (line : LogLine) :
    s.keep line =
      { s with disk := Disk.logged s.outlets.file s.host.writingRoom s.disk line } := by
  cases hfile : s.outlets.file with
  | none => simp [keep, Disk.logged, hfile]
  | some path =>
    cases hwrite : s.disk.writeBytes true path (line.bytes s.host.writingRoom) <;>
      simp [keep, Disk.logged, hfile, hwrite, Except.toOption]

theorem reaches_keep (s : Session) (line : LogLine) : s.Reaches [] (s.keep line) := by
  rw [keep_eq]
  exact ⟨(List.append_nil _).symm, rfl, rfl, rfl, ⟨[line], rfl⟩⟩

theorem reaches_foldl {step : Session → α → Session}
    (hstep : ∀ (s : Session) a, s.Reaches [] (step s a)) (s : Session) (as : List α) :
    s.Reaches [] (as.foldl step s) := by
  induction as generalizing s with
  | nil => exact .refl s
  | cons a as ih => exact (hstep s a).trans (ih (step s a))

theorem reaches_act (s : Session) (action : LogAction) : s.Reaches [] (s.act action).1 := by
  let reaction := s.outlets.act action
  have hfile : reaction.outlets.file = s.outlets.file := Outlets.file_act s.outlets action
  have houtlets : s.Reaches [] { s with outlets := reaction.outlets } :=
    ⟨(List.append_nil _).symm, rfl, rfl, hfile, .refl _ _ _⟩
  have hnone : ((reaction.shown.map Emission.log).filterMap Emission.out?).flatten = [] := by
    simp [List.filterMap_map, Emission.out?, Function.comp_def]
  have hshown := reaches_emit { s with outlets := reaction.outlets } (reaction.shown.map .log)
  rw [hnone] at hshown
  exact (houtlets.trans hshown).trans (reaches_foldl reaches_keep _ reaction.kept)

theorem reaches_note (s : Session) (r : Record) : s.Reaches [] (s.note r) := s.reaches_act _

theorem reaches_noteAll (s : Session) (journal : Journal) :
    s.Reaches [] (journal.foldl Session.note s) :=
  reaches_foldl reaches_note s journal

theorem disk_setConsoleLevel (s : Session) (name : Text) :
    (s.act (.setConsoleLevel name)).1.disk = s.disk := by
  unfold act Outlets.act
  dsimp only
  split <;> rfl

end Session

namespace Action

def Meets (x : Action α) (s : Session) (good : α → Session → Prop) (bad : Halt → Session → Prop) :
    Prop :=
  match x s with
  | (.ok a, t) => good a t
  | (.error h, t) => bad h t

section Rules

variable {s : Session} {good : α → Session → Prop} {bad : Halt → Session → Prop}

theorem meets_bind {x : Action β} {f : β → Action α} {mid : β → Session → Prop}
    (hx : x.Meets s mid bad) (hf : ∀ b t, mid b t → (f b).Meets t good bad) :
    (x >>= f).Meets s good bad := by
  unfold Meets at hx
  split at hx
  · rename_i b t hb
    rw [Meets, bind_ok hb f]
    exact hf b t hx
  · rename_i e t hb
    rw [Meets, bind_error hb f]
    exact hx

theorem Meets.mono {x : Action α} {good' : α → Session → Prop} {bad' : Halt → Session → Prop}
    (h : x.Meets s good bad) (hgood : ∀ a t, good a t → good' a t)
    (hbad : ∀ e t, bad e t → bad' e t) : x.Meets s good' bad' := by
  unfold Meets at h ⊢
  split at h
  · exact hgood _ _ h
  · exact hbad _ _ h

theorem meets_pure {a : α} (h : good a s) : (pure a : Action α).Meets s good bad := h

theorem meets_session_bind {f : Session → Action α} (h : (f s).Meets s good bad) :
    (session >>= f).Meets s good bad := h

theorem meets_modify_bind {change : Session → Session} {f : Unit → Action α}
    (h : (f ()).Meets (change s) good bad) : (modify change >>= f).Meets s good bad := h

theorem meets_halt {e : Halt} (h : bad e s) : (halt e : Action α).Meets s good bad := h

theorem meets_orFault {fault : ε → Fault} {result : Except ε α}
    (hok : ∀ a, result = .ok a → good a s)
    (herror : ∀ e, result = .error e → bad (.fault (fault e)) s) :
    (orFault fault result).Meets s good bad := by
  cases result with
  | ok a => exact hok a rfl
  | error e => exact herror e rfl

theorem meets_orFault_bind {fault : ε → Fault} {result : Except ε β} {f : β → Action α}
    (hok : ∀ b, result = .ok b → (f b).Meets s good bad)
    (herror : ∀ e, result = .error e → bad (.fault (fault e)) s) :
    (orFault fault result >>= f).Meets s good bad := by
  cases result with
  | ok b => exact hok b rfl
  | error e => exact herror e rfl

end Rules

theorem onDisk_ok {f : Disk → Except Failure Disk} {s : Session} {disk : Disk}
    (h : f s.disk = .ok disk) : onDisk f s = (.ok (), { s with disk }) := by
  change (orFault Failure.fault (f s.disk) >>= fun disk => modify ({ · with disk })) s = _
  rw [h]
  rfl

theorem onDisk_error {f : Disk → Except Failure Disk} {s : Session} {failure : Failure}
    (h : f s.disk = .error failure) : onDisk f s = (.error (.fault failure.fault), s) := by
  change (orFault Failure.fault (f s.disk) >>= fun disk => modify ({ · with disk })) s = _
  rw [h]
  rfl

theorem meets_onDisk (f : Disk → Except Failure Disk) (s : Session) :
    (onDisk f).Meets s (fun _ t => ∃ disk, f s.disk = .ok disk ∧ t = { s with disk })
      (fun h t => (∃ f, h = .fault f) ∧ t = s) := by
  unfold Meets
  cases h : f s.disk with
  | ok disk =>
    rw [onDisk_ok h]
    exact ⟨disk, rfl, rfl⟩
  | error failure =>
    rw [onDisk_error h]
    exact ⟨⟨_, rfl⟩, rfl⟩

end Action

end CommentTags
