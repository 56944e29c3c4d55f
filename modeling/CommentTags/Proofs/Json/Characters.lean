import CommentTags.Proofs.Json.Documents

namespace CommentTags.Json

def IsVisible (c : Char) : Prop := 0x20 ≤ c.toNat ∧ c.toNat ≤ 0x7E

instance (c : Char) : Decidable (IsVisible c) := inferInstanceAs (Decidable (_ ∧ _))

theorem isVisible_digitChar {n : ℕ} (h : n < 16) : IsVisible n.digitChar := by
  have hall : ∀ m < 16, IsVisible m.digitChar := by decide
  exact hall n h

theorem isVisible_of_isDigit {c : Char} (h : Text.isDigit c = true) : IsVisible c := by
  simp only [Text.isDigit, Bool.and_eq_true, decide_eq_true_eq] at h
  have hlow : '0'.toNat ≤ c.toNat := h.1
  have hhigh : c.toNat ≤ '9'.toNat := h.2
  have h0 : '0'.toNat = 0x30 := rfl
  have h9 : '9'.toNat = 0x39 := rfl
  constructor <;> omega

theorem isVisible_of_mem_ofInt {n : ℤ} {c : Char} (h : c ∈ Text.ofInt n) : IsVisible c := by
  cases n with
  | ofNat n => exact isVisible_of_isDigit (Text.isDigit_of_mem_ofNat h)
  | negSucc n =>
    rcases List.mem_cons.mp h with rfl | h
    · decide
    · exact isVisible_of_isDigit (Text.isDigit_of_mem_ofNat h)

theorem isVisible_of_mem_unitEscape {n : ℕ} (hn : n < 0x10000) {c : Char}
    (h : c ∈ unitEscape n) : IsVisible c := by
  rw [unitEscape, Text.hex_four hn] at h
  simp only [List.mem_cons, List.not_mem_nil, or_false] at h
  rcases h with rfl | rfl | rfl | rfl | rfl | rfl
  case inl | inr.inl => decide
  all_goals exact isVisible_digitChar (by omega)

theorem isVisible_of_escapeLetter? {c l : Char} (h : escapeLetter? c = some l) : IsVisible l := by
  unfold escapeLetter? at h
  split at h <;> cases h <;> decide

theorem isVisible_of_mem_stringChar {a c : Char} (h : c ∈ stringChar a) : IsVisible c := by
  unfold stringChar at h
  split at h
  · rename_i l hl
    simp only [List.mem_cons, List.not_mem_nil, or_false] at h
    rcases h with rfl | rfl
    · decide
    · exact isVisible_of_escapeLetter? hl
  · split at h
    · rename_i ha
      rwa [List.mem_singleton.mp h]
    · obtain ⟨n, hn, hc⟩ := List.mem_flatMap.mp h
      exact isVisible_of_mem_unitEscape (unitsOf_lt a n hn) hc

theorem isVisible_of_mem_stringText {s : Text} {c : Char} (h : c ∈ stringText s) :
    IsVisible c := by
  simp only [stringText, List.mem_cons, List.mem_append, List.mem_flatMap, List.not_mem_nil,
    or_false] at h
  rcases h with rfl | ⟨a, -, ha⟩ | rfl
  · decide
  · exact isVisible_of_mem_stringChar ha
  · decide

section Write

variable {P : Char → Prop} {layout : Layout}

theorem forall_mem_separator (hvisible : ∀ c, IsVisible c → P c)
    (hnewLine : ∀ level, ∀ c ∈ layout.newLine level, P c) (level : ℕ) :
    ∀ c ∈ layout.separator level, P c := by
  cases layout with
  | oneLine =>
    have hall : ∀ c ∈ ", ".toList, IsVisible c := by decide
    exact fun c hc => hvisible c (hall c hc)
  | indented width =>
    rintro c (_ | ⟨_, hc⟩)
    · exact hvisible ',' (by decide)
    · exact hnewLine level c hc

theorem forall_mem_writeItems {level : ℕ} {xs : List Json}
    (hseparator : ∀ c ∈ layout.separator level, P c)
    (hxs : ∀ x ∈ xs, ∀ c ∈ write layout level x, P c) : ∀ c ∈ writeItems layout level xs, P c := by
  induction xs with
  | nil => simp [writeItems]
  | cons x xs ih =>
    have hrest := ih (fun y hy => hxs y (List.mem_cons_of_mem x hy))
    simp only [writeItems, List.forall_mem_append]
    exact ⟨⟨hseparator, hxs x List.mem_cons_self⟩, hrest⟩

theorem forall_mem_writeMembers (hvisible : ∀ c, IsVisible c → P c) {level : ℕ}
    {members : List (Text × Json)} (hseparator : ∀ c ∈ layout.separator level, P c)
    (hmembers : ∀ m ∈ members, ∀ c ∈ write layout level m.2, P c) :
    ∀ c ∈ writeMembers layout level members, P c := by
  induction members with
  | nil => simp [writeMembers]
  | cons m members ih =>
    obtain ⟨k, v⟩ := m
    have hrest := ih (fun m hm => hmembers m (List.mem_cons_of_mem _ hm))
    have hkey : ∀ c ∈ stringText k, P c := fun c hc => hvisible c (isVisible_of_mem_stringText hc)
    have hall : ∀ c ∈ ": ".toList, IsVisible c := by decide
    have hcolon : ∀ c ∈ ": ".toList, P c := fun c hc => hvisible c (hall c hc)
    simp only [writeMembers, List.forall_mem_append]
    exact ⟨⟨⟨⟨hseparator, hkey⟩, hcolon⟩, hmembers (k, v) List.mem_cons_self⟩, hrest⟩

theorem forall_mem_write (hvisible : ∀ c, IsVisible c → P c)
    (hnewLine : ∀ level, ∀ c ∈ layout.newLine level, P c) {admits : ℤ → Prop} {depth : ℕ}
    {j : Json} (h : Plain admits depth j) (level : ℕ) : ∀ c ∈ write layout level j, P c := by
  have hword : ∀ w : Text, (∀ c ∈ w, IsVisible c) → ∀ c ∈ w, P c :=
    fun w hw c hc => hvisible c (hw c hc)
  have hseparator := forall_mem_separator hvisible hnewLine
  induction h generalizing level with
  | null depth => exact hword "null".toList (by decide)
  | bool depth b =>
    cases b with
    | false => exact hword "false".toList (by decide)
    | true => exact hword "true".toList (by decide)
  | int depth hn => exact hword _ (fun c hc => isVisible_of_mem_ofInt hc)
  | text depth s => exact hword _ (fun c hc => isVisible_of_mem_stringText hc)
  | @list depth xs hxs ih =>
    cases xs with
    | nil => exact hword "[]".toList (by decide)
    | cons x xs =>
      have hitems := forall_mem_writeItems (hseparator (level + 1))
        (fun y hy => ih y (List.mem_cons_of_mem x hy) (level + 1))
      simp only [write, List.forall_mem_cons, List.forall_mem_append]
      exact ⟨hvisible _ (by decide),
        ⟨⟨⟨hnewLine _, ih x List.mem_cons_self _⟩, hitems⟩, hnewLine _⟩,
        hvisible _ (by decide), List.forall_mem_nil _⟩
  | @object depth members hkeys hmembers ih =>
    cases members with
    | nil => exact hword "\x7b\x7d".toList (by decide)
    | cons m members =>
      obtain ⟨k, v⟩ := m
      have hrest := forall_mem_writeMembers hvisible (hseparator (level + 1))
        (fun m hm => ih m (List.mem_cons_of_mem _ hm) (level + 1))
      have hkey := hword _ (fun c hc => isVisible_of_mem_stringText (s := k) hc)
      have hcolon := hword ": ".toList (by decide)
      have hvalue := ih (k, v) List.mem_cons_self (level + 1)
      simp only [write, List.forall_mem_cons, List.forall_mem_append]
      exact ⟨hvisible _ (by decide), ⟨⟨⟨⟨⟨hnewLine _, hkey⟩, hcolon⟩, hvalue⟩, hrest⟩, hnewLine _⟩,
        hvisible _ (by decide), List.forall_mem_nil _⟩

end Write

end CommentTags.Json
