import CommentTags.Proofs.Json.Strings

namespace CommentTags.Json

def IsShort (n : ℤ) : Prop := (Text.ofNat n.natAbs).length ≤ Text.digitLimit

instance (n : ℤ) : Decidable (IsShort n) := inferInstanceAs (Decidable (_ ≤ _))

def EndsNumber (rest : Text) : Prop :=
  ∀ c ∈ rest.head?, Text.isDigit c = false ∧ c ≠ '.' ∧ c ≠ 'e' ∧ c ≠ 'E'

theorem wholeDigits_ofNat (n : ℕ) {rest : Text} (h : EndsNumber rest) :
    wholeDigits (Text.ofNat n ++ rest) = Text.ofNat n := by
  rcases Nat.eq_zero_or_pos n with rfl | hn
  · rfl
  · have hhead := Text.head?_ofNat_ne_zero hn
    unfold wholeDigits
    split
    · rename_i s hs
      obtain ⟨c, cs, hc⟩ := List.exists_cons_of_ne_nil (Text.ofNat_ne_nil n)
      rw [hc, List.cons_append] at hs
      rw [hc, (List.cons.inj hs).1] at hhead
      exact absurd rfl hhead
    · exact Text.takeWhile_isDigit_append (fun c hc => Text.isDigit_of_mem_ofNat hc)
        (fun c hc => (h c hc).1)

theorem fraction?_of_endsNumber {rest : Text} (h : EndsNumber rest) : fraction? rest = none := by
  unfold fraction?
  split
  · exact absurd rfl (h '.' rfl).2.1
  · rfl

theorem exponent?_of_endsNumber {rest : Text} (h : EndsNumber rest) : exponent? rest = none := by
  unfold exponent?
  split
  · rename_i c s
    obtain ⟨-, -, he, hE⟩ := h c rfl
    rw [if_neg (by simp [he, hE])]
  · rfl

theorem readNumber_ofInt {n : ℤ} (hn : IsShort n) {rest : Text} (h : EndsNumber rest) :
    readNumber (Text.ofInt n ++ rest) = .ok (.int n, rest) := by
  have hdigits : ∀ m : ℕ, (Text.ofNat m).length ≤ Text.digitLimit →
      wholeDigits (Text.ofNat m ++ rest) = Text.ofNat m ∧
        (Text.ofNat m).isEmpty = false ∧ ¬ Text.digitLimit < (Text.ofNat m).length :=
    fun m hm => ⟨wholeDigits_ofNat m h, by simp [Text.ofNat_ne_nil], by omega⟩
  have hfraction := fraction?_of_endsNumber h
  have hexponent := exponent?_of_endsNumber h
  cases n with
  | ofNat m =>
    obtain ⟨hwhole, hne, hshort⟩ := hdigits m hn
    have hsign : ∀ t, Text.ofNat m ++ rest ≠ '-' :: t := by
      intro t ht
      obtain ⟨c, cs, hc⟩ := List.exists_cons_of_ne_nil (Text.ofNat_ne_nil m)
      have hdigit : Text.isDigit c = true := Text.isDigit_of_mem_ofNat (n := m) (by simp [hc])
      rw [hc, List.cons_append] at ht
      rw [(List.cons.inj ht).1] at hdigit
      cases hdigit
    unfold readNumber
    split
    rename_i negative body heq
    split at heq
    · rename_i t ht
      exact absurd ht (hsign t)
    · obtain ⟨rfl, rfl⟩ := Prod.mk.inj heq
      simp [Text.ofInt, hwhole, hne, hshort, hfraction, hexponent, Text.digitsValue_ofNat]
  | negSucc m =>
    obtain ⟨hwhole, hne, hshort⟩ := hdigits (m + 1) hn
    have hvalue : -((m : ℤ) + 1) = Int.negSucc m := rfl
    simp [readNumber, Text.ofInt, hwhole, hne, hshort, hfraction, hexponent,
      Text.digitsValue_ofNat, hvalue]

end CommentTags.Json
