import CommentTags.Proofs.Settings.Layers

namespace CommentTags.Settings

/-- Bytes that are text, and a document unless that text breaks the grammar of documents. -/
def Bearable (room : ℕ) (bytes : List UInt8) : Prop :=
  ∃ text, Utf8.strict bytes = .ok text ∧
    ∀ fault, Json.parse text.unifyLineEnds room = .error fault →
      ∃ problem left, fault = .malformed problem left

/-- The settings are loaded, whatever their file is like. A file that is there and gives no document
is told in a warning, and all settings come from the environment or are the defaults. -/
def Forgives (disk : Disk) (env : Environment) (root : Text) (room : ℕ) : Prop :=
  ∃ journal settings, load disk env root room = (journal, .ok settings) ∧
    (disk.pathExists (path root) ≠ .ok false → document? disk (path root) room = none →
      (∃ r ∈ journal, r.level = .warning) ∧
        ∀ setting : Setting, settings.get setting =
          (env.lookup setting.variableName).getD (standard.get setting))

variable {disk : Disk} {env : Environment} {root file : Text} {room : ℕ}

theorem bearable_of_readDocument {result : Except FileProblem (Option Json)}
    (h : readDocument disk file room = .ok result) {bytes : List UInt8}
    (hbytes : disk.readBytes file = .ok bytes) : Bearable room bytes := by
  unfold readDocument at h
  rw [Disk.pathExists_of_readBytes hbytes, hbytes] at h
  dsimp only at h
  cases htext : Utf8.strict bytes with
  | error e =>
    rw [htext] at h
    cases h
  | ok text =>
    rw [htext] at h
    refine ⟨text, htext, fun fault hfault => ?_⟩
    dsimp only at h
    rw [hfault] at h
    cases fault with
    | malformed problem left => exact ⟨problem, left, rfl⟩
    | hugeInteger digits => cases h
    | tooDeep container => cases h

theorem exists_readDocument (h : ∀ bytes, disk.readBytes file = .ok bytes → Bearable room bytes) :
    ∃ result, readDocument disk file room = .ok result := by
  unfold readDocument
  split
  · exact ⟨_, rfl⟩
  · exact ⟨_, rfl⟩
  · cases hread : disk.readBytes file with
    | error failure => exact ⟨_, rfl⟩
    | ok bytes =>
      obtain ⟨text, htext, hfault⟩ := h bytes hread
      simp only [htext]
      cases hparse : Json.parse text.unifyLineEnds room with
      | ok document => exact ⟨_, rfl⟩
      | error fault =>
        obtain ⟨problem, left, rfl⟩ := hfault fault hparse
        exact ⟨_, rfl⟩

theorem exists_problem_of_readDocument {result : Except FileProblem (Option Json)}
    (h : readDocument disk file room = .ok result) (hexists : disk.pathExists file ≠ .ok false)
    (hnone : document? disk file room = none) : ∃ problem, result = .error problem := by
  rw [document?_of_readDocument h] at hnone
  cases result with
  | error problem => exact ⟨problem, rfl⟩
  | ok document =>
    obtain rfl : document = none := hnone
    unfold readDocument at h
    split at h
    · cases h
    · rename_i hmissing
      exact absurd hmissing hexists
    · split at h
      · cases h
      · split at h
        · cases h
        · dsimp only at h
          split at h <;> cases h

theorem load_of_problem (env : Environment) {problem : FileProblem}
    (h : readDocument disk (path root) room = .ok (.error problem)) :
    ∃ warning info, warning.level = .warning ∧
      load disk env root room = ([warning, info], .ok (standard.override env)) := by
  unfold load
  dsimp only
  rw [h]
  exact ⟨_, _, rfl, rfl⟩

theorem exists_load_of_readDocument (env : Environment)
    {result : Except FileProblem (Option Json)}
    (h : readDocument disk (path root) room = .ok result) :
    ∃ journal settings, load disk env root room = (journal, .ok settings) := by
  unfold load
  dsimp only
  rw [h]
  split
  · rename_i heq
    cases heq
  all_goals exact ⟨_, _, rfl⟩

theorem exists_readDocument_of_load {journal : Journal} {settings : Settings}
    (h : load disk env root room = (journal, .ok settings)) :
    ∃ result, readDocument disk (path root) room = .ok result := by
  cases hread : readDocument disk (path root) room with
  | ok result => exact ⟨result, rfl⟩
  | error flaw =>
    unfold load at h
    dsimp only at h
    rw [hread] at h
    cases (Prod.mk.inj h).2

/-- Loading puts up with a settings file exactly if its bytes, as far as they can be read, are text
and keep within the limits on integers and on depth. -/
theorem forgives_iff_bearable (disk : Disk) (env : Environment) (root : Text) (room : ℕ) :
    Forgives disk env root room ↔
      ∀ bytes, disk.readBytes (path root) = .ok bytes → Bearable room bytes := by
  constructor
  · rintro ⟨journal, settings, hload, -⟩ bytes hbytes
    obtain ⟨result, hread⟩ := exists_readDocument_of_load hload
    exact bearable_of_readDocument hread hbytes
  · intro h
    obtain ⟨result, hread⟩ := exists_readDocument h
    obtain ⟨journal, settings, hload⟩ := exists_load_of_readDocument env hread
    refine ⟨journal, settings, hload, fun hexists hnone => ?_⟩
    obtain ⟨problem, rfl⟩ := exists_problem_of_readDocument hread hexists hnone
    obtain ⟨warning, info, hlevel, hproblem⟩ := load_of_problem env hread
    rw [hload] at hproblem
    obtain ⟨rfl, hsettings⟩ := Prod.mk.inj hproblem
    refine ⟨⟨warning, List.mem_cons_self, hlevel⟩, fun setting => ?_⟩
    rw [Except.ok.inj hsettings, get_override]

def spoiltDisk : Disk where
  root := .dir [("p".toList, .dir [(ownDir, .dir [(fileName, .file [0xFF])])])]
  cwd := ["p".toList]

theorem not_forgives_spoilt : ¬ Forgives spoiltDisk [] ['.'] Json.usualRoom := by
  have hload : load spoiltDisk [] ['.'] =
      ([], .error (.illFormed ⟨0xFF, 0, 1, .start⟩)) := by decide +kernel
  rintro ⟨journal, settings, h, -⟩
  rw [hload] at h
  cases (Prod.mk.inj h).2

end CommentTags.Settings
