import CommentTags.File.Encoding
import Mathlib.Data.List.Basic

namespace CommentTags.Utf8

section Bytes

variable {bits read missing low high n : ℕ} (bs : List UInt8)

theorem units_one (h : n < 0x80) :
    units none (UInt8.ofNat n :: bs) = .char (Char.ofNat n) :: units none bs := by
  rw [units, UInt8.toNat_ofNat_of_lt' (show n < 256 by omega), next, first, if_pos h]
  rfl

theorem units_two (hlow : 2 ≤ n) (hhigh : n < 0x20) :
    units none (UInt8.ofNat (n + 0xC0) :: bs) = units (some ⟨n, 1, 1, 0x80, 0xBF⟩) bs := by
  rw [units, UInt8.toNat_ofNat_of_lt' (show n + 0xC0 < 256 by omega), next, first,
    if_neg (by omega), if_neg (by omega), if_pos (by omega), Nat.add_sub_cancel]
  rfl

theorem units_three (h : n < 0x10) :
    units none (UInt8.ofNat (n + 0xE0) :: bs) =
      units (some ⟨n, 1, 2, if n = 0 then 0xA0 else 0x80, if n = 0xD then 0x9F else 0xBF⟩) bs := by
  have hlow : n + 0xE0 = 0xE0 ↔ n = 0 := by omega
  have hhigh : n + 0xE0 = 0xED ↔ n = 0xD := by omega
  rw [units, UInt8.toNat_ofNat_of_lt' (show n + 0xE0 < 256 by omega), next, first,
    if_neg (by omega), if_neg (by omega), if_neg (by omega), if_pos (by omega), Nat.add_sub_cancel]
  simp only [hlow, hhigh, List.nil_append]

theorem units_four (h : n < 5) :
    units none (UInt8.ofNat (n + 0xF0) :: bs) =
      units (some ⟨n, 1, 3, if n = 0 then 0x90 else 0x80, if n = 4 then 0x8F else 0xBF⟩) bs := by
  have hlow : n + 0xF0 = 0xF0 ↔ n = 0 := by omega
  have hhigh : n + 0xF0 = 0xF4 ↔ n = 4 := by omega
  rw [units, UInt8.toNat_ofNat_of_lt' (show n + 0xF0 < 256 by omega), next, first,
    if_neg (by omega), if_neg (by omega), if_neg (by omega), if_neg (by omega), if_pos (by omega),
    Nat.add_sub_cancel]
  simp only [hlow, hhigh, List.nil_append]

theorem units_inner (hlow : low ≤ n + 0x80) (hhigh : n + 0x80 ≤ high) (hn : n < 0x40) :
    units (some ⟨bits, read, missing + 2, low, high⟩) (UInt8.ofNat (n + 0x80) :: bs) =
      units (some ⟨bits * 0x40 + n, read + 1, missing + 1, 0x80, 0xBF⟩) bs := by
  rw [units, UInt8.toNat_ofNat_of_lt' (show n + 0x80 < 256 by omega), next,
    if_pos ⟨hlow, hhigh⟩, if_neg (by simp), Nat.add_sub_cancel]
  rfl

theorem units_last (hlow : low ≤ n + 0x80) (hhigh : n + 0x80 ≤ high) (hn : n < 0x40) :
    units (some ⟨bits, read, 1, low, high⟩) (UInt8.ofNat (n + 0x80) :: bs) =
      .char (Char.ofNat (bits * 0x40 + n)) :: units none bs := by
  rw [units, UInt8.toNat_ofNat_of_lt' (show n + 0x80 < 256 by omega), next,
    if_pos ⟨hlow, hhigh⟩, if_pos rfl, Nat.add_sub_cancel]
  rfl

end Bytes

theorem units_char (c : Char) (rest : List UInt8) :
    units none (String.utf8EncodeChar c ++ rest) = .char c :: units none rest := by
  have hvalid : c.val.toNat < 0xD800 ∨ 0xDFFF < c.val.toNat ∧ c.val.toNat < 0x110000 := c.valid
  have hchar : Char.ofNat c.val.toNat = c := Char.ofNat_toNat c
  unfold String.utf8EncodeChar
  generalize c.val.toNat = v at hvalid hchar
  subst hchar
  dsimp only
  split
  · exact units_one rest (by omega)
  split
  · rw [List.cons_append, units_two _ (by omega) (by omega), List.singleton_append,
      units_last _ (by omega) (by omega) (by omega)]
    congr 3
    omega
  split
  -- the bounds of the second byte shut out shorter forms and the halves of pairs
  · rw [List.cons_append, units_three _ (by omega), List.cons_append,
      units_inner _ (by split <;> omega) (by split <;> omega) (by omega), List.singleton_append,
      units_last _ (by omega) (by omega) (by omega)]
    congr 3
    omega
  · rw [List.cons_append, units_four _ (by omega), List.cons_append,
      units_inner _ (by split <;> omega) (by split <;> omega) (by omega), List.cons_append,
      units_inner _ (by omega) (by omega) (by omega), List.singleton_append,
      units_last _ (by omega) (by omega) (by omega)]
    congr 3
    omega

theorem units_encode (s : Text) : units none (encode s) = s.map .char := by
  induction s with
  | nil => rfl
  | cons c s ih => rw [encode, List.flatMap_cons, units_char, ← encode, ih, List.map_cons]

theorem strictFrom_chars (position : ℕ) (s : Text) :
    strictFrom position (s.map .char) = .ok s := by
  induction s generalizing position with
  | nil => rfl
  | cons c s ih => rw [List.map_cons, strictFrom, ih]; rfl

theorem strict_encode (s : Text) : strict (encode s) = .ok s := by
  rw [strict, units_encode, strictFrom_chars]
  rfl

/-- Bytes that no encoding of a character holds. -/
def IsStray (b : UInt8) : Prop := b = 0xC0 ∨ b = 0xC1 ∨ 0xF5 ≤ b

instance (b : UInt8) : Decidable (IsStray b) := inferInstanceAs (Decidable (_ ∨ _))

/-- The bytes are those of the characters of a text, with any stray ones before, between and behind
them. -/
inductive Strewn : Text → List UInt8 → Prop where
  | nil : Strewn [] []
  | stray {b : UInt8} {s : Text} {bytes : List UInt8} (hb : IsStray b) (h : Strewn s bytes) :
      Strewn s (b :: bytes)
  | char (c : Char) {s : Text} {bytes : List UInt8} (h : Strewn s bytes) :
      Strewn (c :: s) (String.utf8EncodeChar c ++ bytes)

theorem Strewn.append (front : Text) {s : Text} {bytes : List UInt8} (h : Strewn s bytes) :
    Strewn (front ++ s) (encode front ++ bytes) := by
  induction front with
  | nil => exact h
  | cons c front ih =>
    rw [List.cons_append, encode, List.flatMap_cons, ← encode, List.append_assoc]
    exact .char c ih

theorem strewn_encode (s : Text) : Strewn s (encode s) := by
  have h := Strewn.nil.append s
  rwa [List.append_nil, List.append_nil] at h

theorem units_stray {b : UInt8} (hb : IsStray b) (bytes : List UInt8) :
    units none (b :: bytes) = .flawed 1 .start :: units none bytes := by
  have hfirst : first b.toNat = ([.flawed 1 .start], none) := by
    rcases hb with rfl | rfl | hb
    · rfl
    · rfl
    · have hb : 0xF5 ≤ b.toNat := UInt8.le_iff_toNat_le.mp hb
      rw [first, if_neg (by omega), if_neg (by omega), if_neg (by omega), if_neg (by omega),
        if_neg (by omega)]
  rw [units, next, hfirst]
  rfl

theorem lenient_of_strewn {s : Text} {bytes : List UInt8} (h : Strewn s bytes) :
    lenient bytes = s := by
  rw [lenient]
  induction h with
  | nil => rfl
  | stray hb _ ih => rw [units_stray hb, List.filterMap_cons_none rfl, ih]
  | char c _ ih =>
    rw [units_char]
    exact congrArg (c :: ·) ih

theorem lenient_encode (s : Text) : lenient (encode s) = s := lenient_of_strewn (strewn_encode s)

end CommentTags.Utf8
