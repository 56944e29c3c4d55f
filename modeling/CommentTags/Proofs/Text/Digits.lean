import CommentTags.Text
import Mathlib.Data.List.TakeWhile

namespace CommentTags.Text

theorem isDigit_eq (c : Char) : isDigit c = c.isDigit := by
  simp [isDigit, Char.isDigit, Char.le_def, UInt32.le_iff_toNat_le]

theorem isDigit_of_mem_ofNat {n : ℕ} {c : Char} (h : c ∈ ofNat n) : isDigit c = true := by
  rw [isDigit_eq]
  exact Nat.isDigit_of_mem_toDigits (by decide) (by decide) h

theorem ofNat_ne_nil (n : ℕ) : ofNat n ≠ [] := Nat.toDigits_ne_nil

theorem digitsValue_ofNat (n : ℕ) : digitsValue (ofNat n) = n := by
  have hfold : digitsValue (ofNat n) = Nat.ofDigitChars 10 (ofNat n) 0 := by
    rw [digitsValue, Nat.ofDigitChars_eq_foldl]
    congr
    funext sofar c
    rw [Nat.mul_comm]
    rfl
  rw [hfold]
  exact Nat.ofDigitChars_toDigits (by decide) (by decide)

theorem head?_ofNat_ne_zero {n : ℕ} (h : 0 < n) : (ofNat n).head? ≠ some '0' := by
  induction n using Nat.strong_induction_on with
  | h n ih =>
    rw [ofNat, Nat.toDigits_eq_if (by decide)]
    split
    · simpa [Nat.digitChar_eq_zero] using Nat.pos_iff_ne_zero.mp h
    · have hrest := ih (n / 10) (by omega) (by omega)
      obtain ⟨c, cs, hc⟩ := List.exists_cons_of_ne_nil (ofNat_ne_nil (n / 10))
      rw [hc] at hrest
      rw [ofNat] at hc
      rw [hc]
      exact hrest

theorem takeWhile_isDigit_append {ds rest : Text} (hds : ∀ c ∈ ds, isDigit c = true)
    (hrest : ∀ c ∈ rest.head?, isDigit c = false) :
    (ds ++ rest).takeWhile isDigit = ds := by
  rw [List.takeWhile_append_of_pos hds]
  cases rest with
  | nil => simp
  | cons c cs => simp [hrest c rfl]

theorem hex_succ {width : ℕ} (hw : 0 < width) (n : ℕ) :
    hex (width + 1) n = hex width (n / 16) ++ [(n % 16).digitChar] := by
  unfold hex
  by_cases hn : n < 16
  · have hdiv : n / 16 = 0 := by omega
    obtain ⟨width, rfl⟩ := Nat.exists_eq_succ_of_ne_zero (Nat.pos_iff_ne_zero.mp hw)
    rw [Nat.toDigits_of_lt_base hn, hdiv, Nat.toDigits_zero, Nat.mod_eq_of_lt hn]
    simp [List.replicate_succ']
  · rw [Nat.toDigits_of_base_le (by decide) (by omega)]
    simp

theorem hex_four {n : ℕ} (h : n < 0x10000) :
    hex 4 n = [(n / 4096).digitChar, (n / 256 % 16).digitChar, (n / 16 % 16).digitChar,
      (n % 16).digitChar] := by
  have hfirst : hex 1 (n / 16 / 16 / 16) = [(n / 16 / 16 / 16).digitChar] := by
    rw [hex, Nat.toDigits_of_lt_base (by omega)]
    rfl
  rw [hex_succ (by decide), hex_succ (by decide), hex_succ (by decide), hfirst]
  simp [Nat.div_div_eq_div_mul]

theorem hexDigit?_digitChar {d : ℕ} (h : d < 16) : hexDigit? d.digitChar = some d := by
  have hall : ∀ d < 16, hexDigit? d.digitChar = some d := by decide
  exact hall d h

end CommentTags.Text
