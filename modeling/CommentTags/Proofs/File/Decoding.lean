import CommentTags.Proofs.File.Names
import CommentTags.Proofs.File.Writing
import CommentTags.Proofs.Walk.Failure

namespace CommentTags

namespace Encoding

def IsMarked (bytes : List UInt8) : Prop := [0xFF, 0xFE] <+: bytes ∨ [0xFE, 0xFF] <+: bytes

instance (bytes : List UInt8) : Decidable (IsMarked bytes) := inferInstanceAs (Decidable (_ ∨ _))

theorem not_isMarked_of_ne {bytes : List UInt8} (hlittle : ∀ rest, bytes ≠ 0xFF :: 0xFE :: rest)
    (hbig : ∀ rest, bytes ≠ 0xFE :: 0xFF :: rest) : ¬ IsMarked bytes := by
  rintro (⟨rest, rfl⟩ | ⟨rest, rfl⟩)
  · exact hlittle rest rfl
  · exact hbig rest rfl

theorem decode?_eq_none_iff (e : Encoding) (bytes : List UInt8) :
    e.decode? bytes = none ↔ e = .utf16 ∧ 2 ≤ bytes.length ∧ ¬ IsMarked bytes := by
  unfold decode?
  split
  case h_7 rest => simp [IsMarked]
  case h_8 rest => simp [IsMarked]
  case h_9 hlittle hbig =>
    have hmark : ¬ IsMarked bytes := not_isMarked_of_ne hlittle hbig
    split
    · rename_i hshort
      simp [Nat.not_le.mpr hshort]
    · rename_i hlong
      simp [Nat.le_of_not_lt hlong, hmark]
  all_goals simp

/-- No text comes of the bytes: their order is not told, or the system has no decoder for them that
gets to their end. -/
def Refuses (codecs : Codecs) (encoding : Text) (bytes : List UInt8) : Prop :=
  match ofFileName? encoding with
  | some e => e = .utf16 ∧ 2 ≤ bytes.length ∧ ¬ IsMarked bytes
  | none => ∀ decode, codecs.other? encoding = some (.text decode) → (decode bytes).problem.isSome

end Encoding

namespace Disk

variable (d : Disk) (followLinks : Bool) (codecs : Codecs)

/-- A file cannot be read as text, although the system does not refuse it. -/
def Misreads (encoding file : Text) : Prop :=
  Failure.zero ∈ encoding ∨ Failure.zero ∈ file ∨
    ∃ bytes, d.readBytes file = .ok bytes ∧ Encoding.Refuses codecs encoding bytes

variable {d followLinks codecs}

theorem isSystem_of_checked {α : Type} {path : Text} {result : Except Failure α}
    (hresult : ∀ f, result = .error f → f.isSystem = true) {f : Failure}
    (h : checked path result = .error f) : f.isSystem = true ∨ Failure.zero ∈ path := by
  unfold checked at h
  split at h
  · rename_i hzero
    exact .inr (by simpa using hzero)
  · exact .inl (hresult f h)

theorem isSystem_of_readBytes {path : Text} {f : Failure} (h : d.readBytes path = .error f) :
    f.isSystem = true ∨ Failure.zero ∈ path := by
  refine isSystem_of_checked (fun f hf => ?_) h
  split at hf <;> cases hf <;> rfl

theorem isSystem_of_readDir {path : Text} {f : Failure} (h : d.readDir path = .error f) :
    f.isSystem = true ∨ Failure.zero ∈ path := by
  refine isSystem_of_checked (fun f hf => ?_) h
  split at hf <;> cases hf <;> rfl

theorem isSystem_of_entriesOf {dir : Text} {es : List (Text × Node)} {f : Failure}
    (h : d.entriesOf followLinks dir es = .error f) : f.isSystem = true := by
  induction es with
  | nil => cases h
  | cons e es ih =>
    rw [entriesOf] at h
    split at h
    · rename_i failure hentry
      obtain rfl := Except.error.inj h
      unfold entry at hentry
      split at hentry
      · cases hentry
      · cases hentry
      · split at hentry
        · dsimp only at hentry
          split at hentry
          · cases hentry
          · cases hentry
          · split at hentry <;> cases hentry
            rfl
        · cases hentry
    · cases hes : d.entriesOf followLinks dir es with
      | ok es =>
        rw [hes] at h
        cases h
      | error failure =>
        rw [hes] at h
        obtain rfl := Except.error.inj h
        exact ih hes

theorem isSystem_of_listDir {dir : Text} {f : Failure} (h : d.listDir followLinks dir = .error f) :
    f.isSystem = true ∨ Failure.zero ∈ dir := by
  unfold listDir at h
  split at h
  · rename_i failure hdir
    obtain rfl := Except.error.inj h
    exact isSystem_of_readDir hdir
  · rename_i es hdir
    cases hes : d.entriesOf followLinks dir es.reverse with
    | ok es =>
      rw [hes] at h
      cases h
    | error failure =>
      rw [hes] at h
      obtain rfl := Except.error.inj h
      exact .inl (isSystem_of_entriesOf hes)

theorem listDir_of_zero {dir : Text} (h : Failure.zero ∈ dir) :
    d.listDir followLinks dir = .error .zeroInPath := by
  have hzero : dir.contains Failure.zero = true := by simpa using h
  simp only [listDir, readDir, checked, hzero, if_true]

theorem zero_mem_iff_of_readBytes {file : Text} {f : Failure} (h : d.readBytes file = .error f) :
    Failure.zero ∈ file ↔ f.isSystem = false := by
  constructor
  · intro hzero
    have hcontains : file.contains Failure.zero = true := by simpa using hzero
    simp only [readBytes, checked, hcontains, if_true, Except.error.injEq] at h
    rw [← h]
    rfl
  · intro hfailure
    rcases isSystem_of_readBytes h with hsystem | hzero
    · rw [hfailure] at hsystem
      cases hsystem
    · exact hzero

theorem refuses_iff_of_readBytes {encoding file : Text} (hencoding : Failure.zero ∉ encoding)
    {bytes : List UInt8} (h : d.readBytes file = .ok bytes) :
    Encoding.Refuses codecs encoding bytes ↔ ∃ f, f.isSystem = false ∧
      (d.access followLinks codecs).failure? encoding (.read file) = some f := by
  have hcontains : encoding.contains Failure.zero = false := by simpa using hencoding
  simp only [FileAccess.failure?, access, readText, hcontains, h, Encoding.Refuses, Codecs.find?]
  cases Encoding.ofFileName? encoding with
  | some e =>
    simp only [Encoding.codec, ← Encoding.decode?_eq_none_iff]
    cases e.decode? bytes <;> simp [reading, Failure.isSystem]
  | none =>
    cases codecs.other? encoding with
    | none => simp [Failure.isSystem, Failure.unknownEncoding]
    | some codec =>
      cases codec with
      | binary => simp [Failure.isSystem, Failure.notText]
      | text decode =>
        cases hproblem : (decode bytes).problem <;> simp [reading, hproblem, Failure.isSystem]

theorem misreads_iff (encoding file : Text) :
    d.Misreads codecs encoding file ↔ ∃ f, f.isSystem = false ∧
      (d.access followLinks codecs).failure? encoding (.read file) = some f := by
  by_cases hencoding : Failure.zero ∈ encoding
  · have hcontains : encoding.contains Failure.zero = true := by simpa using hencoding
    have hfailure : (d.access followLinks codecs).failure? encoding (.read file) =
        some .zeroInEncoding := by
      simp only [FileAccess.failure?, access, readText, hcontains, if_true]
    exact ⟨fun _ => ⟨.zeroInEncoding, rfl, hfailure⟩, fun _ => .inl hencoding⟩
  · cases hbytes : d.readBytes file with
    | error failure =>
      simp [Misreads, FileAccess.failure?, access, readText, hencoding, hbytes,
        zero_mem_iff_of_readBytes hbytes]
    | ok bytes =>
      have hzero : Failure.zero ∉ file := by
        simpa using (exists_of_readBytes hbytes).1
      rw [← refuses_iff_of_readBytes hencoding hbytes]
      simp [Misreads, hbytes, hencoding, hzero]

end Disk

end CommentTags
