import CommentTags.Proofs.Text.Trim

namespace CommentTags.Text

def Unbroken (s : Text) : Prop := ∀ c ∈ s, isBlank c = false

instance (s : Text) : Decidable s.Unbroken := decidableForallMem s _

theorem fields_ne_nil_of_not_startsBlank {s : Text} (h : startsBlank s = false) :
    fields s ≠ [] := by
  cases s with
  | nil => cases h
  | cons c s =>
    have hc : isBlank c = false := h
    unfold fields
    rw [hc]
    cases startsBlank s with
    | true => exact List.cons_ne_nil _ _
    | false => cases fields s <;> exact List.cons_ne_nil _ _

theorem fields_append_cons {c : Char} (hc : isBlank c = true) (x y : Text) :
    fields (x ++ c :: y) = fields x ++ fields y := by
  induction x with
  | nil => exact fields_blank c y hc
  | cons a x ih =>
    by_cases ha : isBlank a = true
    · rw [List.cons_append, fields_blank a _ ha, fields_blank a _ ha, ih]
    · have hstarts : startsBlank (x ++ c :: y) = startsBlank x := by
        cases x with
        | nil => exact hc
        | cons b x => rfl
      rw [List.cons_append, fields, fields, if_neg ha, if_neg ha, hstarts, ih]
      cases hx : startsBlank x with
      | true => rfl
      | false =>
        obtain ⟨w, ws, hw⟩ := List.exists_cons_of_ne_nil (fields_ne_nil_of_not_startsBlank hx)
        rw [hw]
        rfl

theorem fields_eq_nil_iff {s : Text} : fields s = [] ↔ ∀ c ∈ s, isBlank c = true := by
  induction s with
  | nil => simp [fields]
  | cons c s ih =>
    by_cases hc : isBlank c = true
    · simp [fields_blank c s hc, ih, hc]
    · have hne : fields (c :: s) ≠ [] :=
        fields_ne_nil_of_not_startsBlank (Bool.eq_false_iff.mpr hc)
      simp [hne, hc]

theorem fields_of_unbroken {f : Text} (hne : f ≠ []) (h : f.Unbroken) : fields f = [f] := by
  induction f with
  | nil => exact absurd rfl hne
  | cons c f ih =>
    have hc : isBlank c = false := h c List.mem_cons_self
    have hf : Unbroken f := fun x hx => h x (List.mem_cons_of_mem _ hx)
    cases f with
    | nil => simp [fields, hc, startsBlank]
    | cons d f =>
      have hd : startsBlank (d :: f) = false := hf d List.mem_cons_self
      rw [fields, hc, hd, ih (List.cons_ne_nil d f) hf]
      rfl

theorem fields_append_of_blank {t : Text} (ht : ∀ c ∈ t, isBlank c = true) (s : Text) :
    fields (s ++ t) = fields s := by
  cases t with
  | nil => rw [List.append_nil]
  | cons c t =>
    have htail : fields t = [] :=
      fields_eq_nil_iff.mpr (fun x hx => ht x (List.mem_cons_of_mem _ hx))
    rw [fields_append_cons (ht c List.mem_cons_self), htail, List.append_nil]

theorem fields_blank_append {t : Text} (ht : ∀ c ∈ t, isBlank c = true) (s : Text) :
    fields (t ++ s) = fields s := by
  induction t with
  | nil => rfl
  | cons c t ih =>
    rw [List.cons_append, fields_blank c _ (ht c List.mem_cons_self)]
    exact ih (fun x hx => ht x (List.mem_cons_of_mem _ hx))

theorem fields_dropEndWhile {p : Char → Bool} (hp : ∀ c, p c = true → isBlank c = true)
    (s : Text) : fields (dropEndWhile p s) = fields s := by
  obtain ⟨t, hs, ht⟩ := exists_dropEndWhile_append p s
  conv_rhs => rw [hs]
  exact (fields_append_of_blank (fun c hc => hp c (ht c hc)) _).symm

theorem fields_trim (s : Text) : fields s.trim = fields s := by
  have hfront : fields (s.dropWhile isBlank) = fields s := by
    conv_rhs => rw [← List.takeWhile_append_dropWhile (p := isBlank) (l := s)]
    exact (fields_blank_append (fun _ hc => List.mem_takeWhile_imp hc) _).symm
  rw [trim, fields_dropEndWhile (fun _ h => h), hfront]

theorem fields_dropLineEnd (s : Text) : fields s.dropLineEnd = fields s := by
  apply fields_dropEndWhile
  intro c hc
  rw [Bool.or_eq_true, beq_iff_eq, beq_iff_eq] at hc
  rcases hc with rfl | rfl <;> rfl

theorem fields_spaced {fs : List Text} (h : ∀ f ∈ fs, f ≠ [] ∧ Unbroken f) :
    fields (spaced fs) = fs := by
  induction fs with
  | nil => rfl
  | cons f fs ih =>
    obtain ⟨hne, hf⟩ := h f List.mem_cons_self
    have ih := ih (fun x hx => h x (List.mem_cons_of_mem _ hx))
    cases fs with
    | nil => rw [spaced, List.intercalate_singleton, fields_of_unbroken hne hf]
    | cons g fs =>
      have hsplit : spaced (f :: g :: fs) = f ++ ' ' :: spaced (g :: fs) := by
        simp [spaced, List.intercalate_cons_cons]
      rw [hsplit, fields_append_cons rfl, fields_of_unbroken hne hf, ih]
      rfl

theorem fields_spaced_fields (s : Text) : fields (spaced (fields s)) = fields s :=
  fields_spaced (fun _ hf => mem_fields hf)

theorem fields_map {g : Char → Char}
    (hg : ∀ c, if isBlank c then isBlank (g c) = true else g c = c) (s : Text) :
    fields (s.map g) = fields s := by
  have hblank : ∀ c, isBlank (g c) = isBlank c := by
    intro c
    have hc := hg c
    split at hc
    · rename_i h
      rw [hc, h]
    · rw [hc]
  induction s with
  | nil => rfl
  | cons c s ih =>
    have hstarts : startsBlank (s.map g) = startsBlank s := by
      cases s with
      | nil => rfl
      | cons d s => exact hblank d
    rw [List.map_cons, fields, fields, hblank, hstarts, ih]
    have hc := hg c
    split
    · rfl
    · rename_i h
      rw [if_neg h] at hc
      rw [hc]

section Ends

variable {d f r : Text} {b : Char}

theorem prefix_append_blank_iff (hd : d.Unbroken) (hb : isBlank b = true) :
    d <+: f ++ b :: r ↔ d <+: f := by
  constructor
  · intro h
    rcases List.prefix_or_prefix_of_prefix h (List.prefix_append f (b :: r)) with h' | ⟨t, rfl⟩
    · exact h'
    · rw [List.prefix_append_right_inj] at h
      cases t with
      | nil => simp
      | cons c t =>
        obtain ⟨rfl, -⟩ := List.cons_prefix_cons.mp h
        rw [hd c (by simp)] at hb
        cases hb
  · exact fun h => h.trans (List.prefix_append f _)

theorem suffix_append_blank_iff (hd : d.Unbroken) (hb : isBlank b = true) :
    d <:+ r ++ b :: f ↔ d <:+ f := by
  have hrev : Unbroken d.reverse := fun c hc => hd c (List.mem_reverse.mp hc)
  rw [← List.reverse_prefix, ← List.reverse_prefix, List.reverse_append, List.reverse_cons,
    List.append_assoc]
  exact prefix_append_blank_iff hrev hb

end Ends

theorem suffix_intercalate_iff {d : Text} {b : Char} (hd : d.Unbroken) (hb : isBlank b = true)
    (ls : List Text) : d <:+ [b].intercalate ls ↔ d <:+ ls.getLastD [] := by
  induction ls with
  | nil => rfl
  | cons l ls ih =>
    cases ls with
    | nil => rw [List.intercalate_singleton, List.getLastD_cons, List.getLastD_nil]
    | cons m ls =>
      rw [List.intercalate_cons_cons, List.append_assoc, List.singleton_append,
        suffix_append_blank_iff hd hb, ih]
      rfl

theorem trim_trim (s : Text) : s.trim.trim = s.trim := by
  obtain ⟨t, hs, ht⟩ := exists_dropEndWhile_append isBlank (s.dropWhile isBlank)
  have hfront : trim (s.dropWhile isBlank) = s.trim := by
    rw [trim, trim, List.dropWhile_idempotent]
  rw [hs, trim_append_of_blank ht] at hfront
  exact hfront

theorem fields_ne_nil_of_getLast? {s : Text} (hne : s ≠ [])
    (h : ∀ c ∈ s.getLast?, isBlank c = false) : fields s ≠ [] := by
  intro hnil
  have hblank := fields_eq_nil_iff.mp hnil _ (List.getLast_mem hne)
  rw [h _ (List.getLast?_eq_some_getLast hne)] at hblank
  cases hblank

theorem exists_first {s : Text} (hs : ∀ c ∈ s.head?, isBlank c = false) :
    s.Unbroken ∨ ∃ f b r, f ≠ [] ∧ Unbroken f ∧ isBlank b = true ∧ s = f ++ b :: r := by
  have hsplit := List.takeWhile_append_dropWhile (p := fun c => !isBlank c) (l := s)
  have hf : Unbroken (s.takeWhile (fun c => !isBlank c)) := by
    intro c hc
    simpa using List.mem_takeWhile_imp hc
  cases hd : s.dropWhile (fun c => !isBlank c) with
  | nil =>
    rw [hd, List.append_nil] at hsplit
    exact .inl (hsplit ▸ hf)
  | cons b r =>
    rw [hd] at hsplit
    have hb : isBlank b = true := by
      have hnot := List.head?_dropWhile_not (fun c => !isBlank c) s
      rw [hd] at hnot
      simpa using hnot
    refine .inr ⟨_, b, r, ?_, hf, hb, hsplit.symm⟩
    intro hnil
    rw [hnil] at hsplit
    have hblank := hs b (by rw [← hsplit]; rfl)
    rw [hb] at hblank
    cases hblank

theorem exists_ends (s : Text) :
    ((fields s).length < 2 ∧ s.trim = (fields s).headD [] ∧ s.trim = (fields s).getLastD []) ∨
      (2 ≤ (fields s).length ∧
        (∃ b r, isBlank b = true ∧ s.trim = (fields s).headD [] ++ b :: r) ∧
        ∃ r b, isBlank b = true ∧ s.trim = r ++ b :: (fields s).getLastD []) := by
  obtain ⟨hhead, hlast⟩ := (trim_eq_self_iff s.trim).mp (trim_trim s)
  rw [← fields_trim s]
  generalize s.trim = u at hhead hlast
  by_cases hne : u = []
  · exact .inl (by simp [hne, fields])
  rcases exists_first hhead with hu | ⟨f, b, r, hf, hsolid, hb, hsplit⟩
  · rw [fields_of_unbroken hne hu]
    exact .inl ⟨Nat.one_lt_two, rfl, rfl⟩
  · have hbroken : ¬ Unbroken u.reverse := by
      intro h
      rw [h b (by simp [hsplit])] at hb
      cases hb
    obtain ⟨g, c, q, hg, hsolid', hc, hback⟩ :=
      (exists_first (s := u.reverse) (by simpa using hlast)).resolve_left hbroken
    have hback : u = q.reverse ++ c :: g.reverse := by
      rw [← List.reverse_reverse u, hback]
      simp
    have hfirst : fields u = f :: fields r := by
      rw [hsplit, fields_append_cons hb, fields_of_unbroken hf hsolid]
      rfl
    have hfinal : fields u = fields q.reverse ++ [g.reverse] := by
      rw [hback, fields_append_cons hc, fields_of_unbroken (by simpa using hg)
        (fun x hx => hsolid' x (List.mem_reverse.mp hx))]
    have hrest : fields r ≠ [] := by
      rw [← fields_blank b r hb]
      rw [hsplit, List.getLast?_append_of_ne_nil _ (List.cons_ne_nil b r)] at hlast
      exact fields_ne_nil_of_getLast? (List.cons_ne_nil b r) hlast
    refine .inr ⟨?_, ⟨b, r, hb, ?_⟩, q.reverse, c, hc, ?_⟩
    · rw [hfirst, List.length_cons]
      exact Nat.succ_le_succ (List.length_pos_iff.mpr hrest)
    · rw [hfirst]
      exact hsplit
    · rw [hfinal, List.getLastD_concat]
      exact hback

section Ends

variable {d : Text}

theorem prefix_trim_iff (hd : d.Unbroken) (s : Text) :
    d <+: s.trim ↔ d <+: (fields s).headD [] := by
  rcases exists_ends s with ⟨-, hs, -⟩ | ⟨-, ⟨b, r, hb, hs⟩, -⟩
  · rw [hs]
  · rw [hs, prefix_append_blank_iff hd hb]

theorem suffix_trim_iff (hd : d.Unbroken) (s : Text) :
    d <:+ s.trim ↔ d <:+ (fields s).getLastD [] := by
  rcases exists_ends s with ⟨-, -, hs⟩ | ⟨-, -, r, b, hb, hs⟩
  · rw [hs]
  · rw [hs, suffix_append_blank_iff hd hb]

theorem length_add_length_le_iff {e s : Text} (hd : d.Unbroken) (he : e.Unbroken)
    (hstart : d <+: s.trim) (hend : e <:+ s.trim) :
    d.length + e.length ≤ s.trim.length ↔
      2 ≤ (fields s).length ∨ d.length + e.length ≤ ((fields s).headD []).length := by
  rcases exists_ends s with ⟨hone, hs, -⟩ | ⟨htwo, ⟨b, r, hb, hs⟩, -⟩
  · rw [hs]
    exact ⟨.inr, fun h => h.resolve_left (Nat.not_le.mpr hone)⟩
  · rw [hs, prefix_append_blank_iff hd hb] at hstart
    rw [hs, suffix_append_blank_iff he hb] at hend
    refine ⟨fun _ => .inl htwo, fun _ => ?_⟩
    have hd := hstart.length_le
    have he := hend.length_le
    rw [hs, List.length_append, List.length_cons]
    omega

end Ends

end CommentTags.Text
