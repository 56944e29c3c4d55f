import CommentTags.Json.Reader
import CommentTags.Json.Writer
import CommentTags.Proofs.Text.Digits

namespace CommentTags.Json

theorem unit?_digitChar {a b c d : ℕ} (ha : a < 16) (hb : b < 16) (hc : c < 16) (hd : d < 16) :
    unit? a.digitChar b.digitChar c.digitChar d.digitChar =
      some (((a * 16 + b) * 16 + c) * 16 + d) := by
  simp [unit?, Text.hexDigit?_digitChar, ha, hb, hc, hd]

theorem exists_unitEscape {n : ℕ} (h : n < 0x10000) :
    ∃ a b c d, unitEscape n = ['\\', 'u', a, b, c, d] ∧ unit? a b c d = some n := by
  refine ⟨(n / 4096).digitChar, (n / 256 % 16).digitChar, (n / 16 % 16).digitChar,
    (n % 16).digitChar, ?_, ?_⟩
  · rw [unitEscape, Text.hex_four h]
  · rw [unit?_digitChar (by omega) (by omega) (by omega) (by omega)]
    congr 1
    omega

theorem toNat_valid (c : Char) : c.toNat < 0xD800 ∨ 0xDFFF < c.toNat ∧ c.toNat < 0x110000 :=
  c.valid

theorem unitsOf_lt (c : Char) : ∀ n ∈ unitsOf c, n < 0x10000 := by
  intro n hn
  have hc := toNat_valid c
  unfold unitsOf at hn
  dsimp only at hn
  split at hn
  · simp only [List.mem_singleton] at hn
    omega
  · simp only [List.mem_cons, List.not_mem_nil, or_false] at hn
    omega

theorem ofUnits_unitsOf (c : Char) (us : List ℕ) :
    ofUnits (unitsOf c ++ us) = c :: ofUnits us := by
  have hc := toNat_valid c
  unfold unitsOf
  dsimp only
  by_cases hn : c.toNat < 0x10000
  · have hsingle : ¬(0xD800 ≤ c.toNat ∧ c.toNat ≤ 0xDFFF) := by omega
    have hpair : ∀ v, ¬(0xD800 ≤ c.toNat ∧ c.toNat ≤ 0xDBFF ∧ 0xDC00 ≤ v ∧ v ≤ 0xDFFF) := by
      intro v
      omega
    rw [if_pos hn]
    cases us with
    | nil => simp [ofUnits, hsingle]
    | cons v us => simp [ofUnits, hsingle, hpair v]
  -- a character beyond the first plane is a pair of surrogates
  · have hpair : 0xD800 ≤ 0xD800 + (c.toNat - 0x10000) / 0x400 ∧
        0xD800 + (c.toNat - 0x10000) / 0x400 ≤ 0xDBFF ∧
        0xDC00 ≤ 0xDC00 + (c.toNat - 0x10000) % 0x400 ∧
        0xDC00 + (c.toNat - 0x10000) % 0x400 ≤ 0xDFFF := by omega
    have hsum : 0x10000 + (0xD800 + (c.toNat - 0x10000) / 0x400 - 0xD800) * 0x400 +
        (0xDC00 + (c.toNat - 0x10000) % 0x400 - 0xDC00) = c.toNat := by omega
    rw [if_neg hn, List.cons_append, List.cons_append, List.nil_append, ofUnits, if_pos hpair, hsum,
      Char.ofNat_toNat]

theorem ofUnits_flatMap (s : Text) : ofUnits (s.flatMap unitsOf) = s := by
  induction s with
  | nil => rfl
  | cons c s ih => rw [List.flatMap_cons, ofUnits_unitsOf, ih]

theorem stringUnits_unitEscape (start : ℕ) {n : ℕ} (h : n < 0x10000) (e : Char) (s : Text) :
    stringUnits start (unitEscape n ++ e :: s) =
      (stringUnits start (e :: s)).map (fun r => (n :: r.1, r.2)) := by
  obtain ⟨a, b, c, d, he, hu⟩ := exists_unitEscape h
  rw [he]
  simp only [List.cons_append, List.nil_append]
  rw [stringUnits]
  simp only [hu]

theorem stringUnits_unitEscapes (start : ℕ) {us : List ℕ} (h : ∀ n ∈ us, n < 0x10000) {s : Text}
    (hs : s ≠ []) :
    stringUnits start (us.flatMap unitEscape ++ s) =
      (stringUnits start s).map (fun r => (us ++ r.1, r.2)) := by
  induction us with
  | nil => cases hr : stringUnits start s <;> simp [hr, Except.map]
  | cons n us ih =>
    obtain ⟨e, t, het⟩ := List.exists_cons_of_ne_nil
      (List.append_ne_nil_of_right_ne_nil (us.flatMap unitEscape) hs)
    rw [List.flatMap_cons, List.append_assoc, het,
      stringUnits_unitEscape start (h n List.mem_cons_self), ← het,
      ih (fun m hm => h m (List.mem_cons_of_mem n hm))]
    cases stringUnits start s <;> rfl

theorem unitsOf_of_escapeLetter? {c l : Char} (h : escapeLetter? c = some l) :
    unitsOf c = [c.toNat] := by
  unfold escapeLetter? at h
  split at h
  case h_8 => cases h
  all_goals rfl

theorem stringUnits_escapeLetter (start : ℕ) {c l : Char} (h : escapeLetter? c = some l)
    (s : Text) :
    stringUnits start ('\\' :: l :: s) =
      (stringUnits start s).map (fun r => (c.toNat :: r.1, r.2)) := by
  unfold escapeLetter? at h
  split at h <;> cases h <;> simp [stringUnits, unescape?]

theorem stringUnits_stringChar (start : ℕ) (c : Char) {s : Text} (hs : s ≠ []) :
    stringUnits start (stringChar c ++ s) =
      (stringUnits start s).map (fun r => (unitsOf c ++ r.1, r.2)) := by
  unfold stringChar
  cases hl : escapeLetter? c with
  | some l =>
    rw [unitsOf_of_escapeLetter? hl]
    exact stringUnits_escapeLetter start hl s
  | none =>
    dsimp only
    split
    · rename_i hc
      have hunits : unitsOf c = [c.toNat] := if_pos (by omega)
      have hquote : c ≠ '"' := by
        rintro rfl
        cases hl
      have hslash : c ≠ '\\' := by
        rintro rfl
        cases hl
      rw [hunits, List.cons_append, List.nil_append, stringUnits, if_neg (by omega)]
      · rfl
      · exact hquote
      all_goals simp [hslash]
    · exact stringUnits_unitEscapes start (unitsOf_lt c) hs

theorem stringUnits_flatMap (start : ℕ) (s rest : Text) :
    stringUnits start (s.flatMap stringChar ++ '"' :: rest) = .ok (s.flatMap unitsOf, rest) := by
  induction s with
  | nil => rfl
  | cons c s ih =>
    rw [List.flatMap_cons, List.append_assoc, stringUnits_stringChar start c (by simp), ih]
    rfl

theorem readString_stringText (s rest : Text) :
    readString (s.flatMap stringChar ++ '"' :: rest) = .ok (s, rest) := by
  rw [readString, stringUnits_flatMap]
  simp only [Except.map, ofUnits_flatMap]

end CommentTags.Json
