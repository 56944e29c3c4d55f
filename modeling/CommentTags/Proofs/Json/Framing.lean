import CommentTags.Proofs.Json.Documents

/-!
The text of a document tells where it ends and which document it is, however long its integers are
and however deep it goes. So nothing is lost when a document is written, whoever reads it.
-/

namespace CommentTags.Json

theorem ofInt_append_injective {n m : ℤ} {rest rest' : Text} (hrest : EndsNumber rest)
    (hrest' : EndsNumber rest') (h : Text.ofInt n ++ rest = Text.ofInt m ++ rest') :
    n = m ∧ rest = rest' := by
  have hnat : ∀ k l : ℕ, Text.ofNat k ++ rest = Text.ofNat l ++ rest' →
      k = l ∧ rest = rest' := by
    intro k l hkl
    have hdigits : Text.ofNat k = Text.ofNat l := by
      rw [← wholeDigits_ofNat k hrest, hkl, wholeDigits_ofNat l hrest']
    refine ⟨?_, ?_⟩
    · rw [← Text.digitsValue_ofNat k, hdigits, Text.digitsValue_ofNat]
    · rw [hdigits] at hkl
      exact List.append_cancel_left hkl
  have hsign : ∀ (k l : ℕ) (s s' : Text), Text.ofNat k ++ s ≠ '-' :: (Text.ofNat l ++ s') := by
    intro k l s s' hkl
    obtain ⟨c, cs, hc⟩ := List.exists_cons_of_ne_nil (Text.ofNat_ne_nil k)
    have hdigit : Text.isDigit c = true := Text.isDigit_of_mem_ofNat (n := k) (by simp [hc])
    rw [hc, List.cons_append] at hkl
    rw [(List.cons.inj hkl).1] at hdigit
    cases hdigit
  cases n with
  | ofNat k =>
    cases m with
    | ofNat l =>
      obtain ⟨rfl, hs⟩ := hnat k l h
      exact ⟨rfl, hs⟩
    | negSucc l => exact absurd h (hsign k (l + 1) rest rest')
  | negSucc k =>
    cases m with
    | ofNat l => exact absurd h.symm (hsign l (k + 1) rest' rest)
    | negSucc l =>
      obtain ⟨hkl, hs⟩ := hnat (k + 1) (l + 1) (List.cons.inj h).2
      obtain rfl := Nat.succ.inj hkl
      exact ⟨rfl, hs⟩

theorem stringText_append_injective {s s' rest rest' : Text}
    (h : stringText s ++ rest = stringText s' ++ rest') : s = s' ∧ rest = rest' := by
  simp only [stringText, List.cons_append, List.append_assoc, List.nil_append, List.cons.injEq,
    true_and] at h
  have hread := congrArg readString h
  rw [readString_stringText, readString_stringText] at hread
  exact Prod.mk.inj (Except.ok.inj hread)

section Families

variable {admits : ℤ → Prop} {layout : Layout} {level depth depth' : ℕ} {j j' : Json}

def family : Json → ℕ
  | .null => 0
  | .bool _ => 1
  | .int _ => 2
  | .text _ => 3
  | .list _ => 4
  | .object _ => 5
  | .real _ => 6

def familyOfHead (c : Char) : ℕ :=
  if c = 'n' then 0 else if c = 't' ∨ c = 'f' then 1 else if c = '"' then 3
  else if c = '[' then 4 else if c = '\x7b' then 5 else 2

theorem exists_head (h : Plain admits depth j) (layout : Layout) (level : ℕ) :
    ∃ c s, write layout level j = c :: s ∧ familyOfHead c = j.family := by
  cases h with
  | null => exact ⟨_, _, rfl, rfl⟩
  | bool _ b => cases b <;> exact ⟨_, _, rfl, rfl⟩
  | @int _ n =>
    obtain ⟨c, s, hcs, hc⟩ := exists_ofInt n
    refine ⟨c, s, hcs, ?_⟩
    have hne : ∀ x, Text.isDigit x = false → x ≠ '-' → c ≠ x := by
      rintro x hx hminus rfl
      rcases hc with hc | ⟨hc, -⟩
      · rw [hx] at hc
        cases hc
      · exact hminus hc
    simp [familyOfHead, family, hne 'n' rfl (by decide), hne 't' rfl (by decide),
      hne 'f' rfl (by decide), hne '"' rfl (by decide), hne '[' rfl (by decide),
      hne '\x7b' rfl (by decide)]
  | text _ s => exact ⟨_, _, rfl, rfl⟩
  | @list _ xs =>
    cases xs with
    | nil => exact ⟨_, _, rfl, rfl⟩
    | cons x xs => exact ⟨_, _, by rw [write], rfl⟩
  | @object _ members =>
    cases members with
    | nil => exact ⟨_, _, rfl, rfl⟩
    | cons m members => exact ⟨_, _, by rw [write], rfl⟩

theorem family_eq (h : Plain admits depth j) (h' : Plain admits depth' j') {rest rest' : Text}
    (hwrite : write layout level j ++ rest = write layout level j' ++ rest') :
    j.family = j'.family := by
  obtain ⟨c, s, hcs, hc⟩ := exists_head h layout level
  obtain ⟨c', s', hcs', hc'⟩ := exists_head h' layout level
  rw [hcs, hcs', List.cons_append, List.cons_append] at hwrite
  rw [← hc, ← hc', (List.cons.inj hwrite).1]

theorem eq_null_of_family (h : j.family = 0) : j = .null := by
  cases j <;> first | rfl | cases h

theorem exists_bool_of_family (h : j.family = 1) : ∃ b, j = .bool b := by
  cases j <;> first | exact ⟨_, rfl⟩ | cases h

theorem exists_int_of_family (h : j.family = 2) : ∃ n, j = .int n := by
  cases j <;> first | exact ⟨_, rfl⟩ | cases h

theorem exists_text_of_family (h : j.family = 3) : ∃ s, j = .text s := by
  cases j <;> first | exact ⟨_, rfl⟩ | cases h

theorem exists_list_of_family (h : j.family = 4) : ∃ xs, j = .list xs := by
  cases j <;> first | exact ⟨_, rfl⟩ | cases h

theorem exists_object_of_family (h : j.family = 5) : ∃ members, j = .object members := by
  cases j <;> first | exact ⟨_, rfl⟩ | cases h

end Families

/-- No other document has the same text in front of whatever does not go on with a number. -/
def Framed (admits : ℤ → Prop) (layout : Layout) (level : ℕ) (j : Json) : Prop :=
  ∀ {depth : ℕ} {j' : Json} {rest rest' : Text}, Plain admits depth j' → EndsNumber rest →
    EndsNumber rest' → write layout level j ++ rest = write layout level j' ++ rest' →
      j = j' ∧ rest = rest'

section Parts

variable {admits : ℤ → Prop} {layout : Layout} {level depth : ℕ} {tail tail' : Text}

structure EndsParts (tail : Text) : Prop where
  number : EndsNumber tail
  comma : tail.head? ≠ some ','

theorem endsParts_newLine (layout : Layout) (level : ℕ) {c : Char} (hc : c = ']' ∨ c = '\x7d')
    (rest : Text) : EndsParts (layout.newLine level ++ c :: rest) := by
  constructor
  · rcases hc with rfl | rfl <;> exact endsNumber_newLine layout level (by decide) rest
  · cases layout with
    | oneLine => rcases hc with rfl | rfl <;> simp [Layout.newLine]
    | indented width => exact nofun

theorem head?_separator (layout : Layout) (level : ℕ) (s : Text) :
    (layout.separator level ++ s).head? = some ',' := by
  obtain ⟨gap, hsep, -⟩ := exists_separator layout level
  rw [hsep]
  rfl

theorem endsNumber_separator (layout : Layout) (level : ℕ) (s : Text) :
    EndsNumber (layout.separator level ++ s) := by
  obtain ⟨gap, hsep, -⟩ := exists_separator layout level
  rw [hsep]
  exact endsNumber_cons (by decide) _

theorem writeItems_append_injective {xs ys : List Json}
    (hxs : ∀ x ∈ xs, Framed admits layout level x) (hys : ∀ y ∈ ys, Plain admits depth y)
    (htail : EndsParts tail) (htail' : EndsParts tail')
    (h : writeItems layout level xs ++ tail = writeItems layout level ys ++ tail') :
    xs = ys ∧ tail = tail' := by
  have hends : ∀ {t : Text} (zs : List Json), EndsParts t →
      EndsNumber (writeItems layout level zs ++ t) := by
    intro t zs ht
    cases zs with
    | nil => exact ht.number
    | cons z zs =>
      simp only [writeItems, List.append_assoc]
      exact endsNumber_separator layout level _
  induction xs generalizing ys with
  | nil =>
    cases ys with
    | nil => exact ⟨rfl, h⟩
    | cons y ys =>
      refine absurd ?_ htail.comma
      rw [writeItems, List.nil_append] at h
      rw [h, writeItems, List.append_assoc, List.append_assoc, head?_separator]
  | cons x xs ih =>
    cases ys with
    | nil =>
      refine absurd ?_ htail'.comma
      rw [writeItems, writeItems, List.nil_append] at h
      rw [← h, List.append_assoc, List.append_assoc, head?_separator]
    | cons y ys =>
      simp only [writeItems, List.append_assoc] at h
      obtain ⟨rfl, hrest⟩ := hxs x List.mem_cons_self (hys y List.mem_cons_self) (hends xs htail)
        (hends ys htail') (List.append_cancel_left h)
      obtain ⟨rfl, hend⟩ := ih (fun z hz => hxs z (List.mem_cons_of_mem x hz))
        (fun z hz => hys z (List.mem_cons_of_mem x hz)) hrest
      exact ⟨rfl, hend⟩

theorem writeMembers_append_injective {ms ns : List (Text × Json)}
    (hms : ∀ m ∈ ms, Framed admits layout level m.2) (hns : ∀ m ∈ ns, Plain admits depth m.2)
    (htail : EndsParts tail) (htail' : EndsParts tail')
    (h : writeMembers layout level ms ++ tail = writeMembers layout level ns ++ tail') :
    ms = ns ∧ tail = tail' := by
  have hends : ∀ {t : Text} (os : List (Text × Json)), EndsParts t →
      EndsNumber (writeMembers layout level os ++ t) := by
    intro t os ht
    cases os with
    | nil => exact ht.number
    | cons o os =>
      simp only [writeMembers, List.append_assoc]
      exact endsNumber_separator layout level _
  induction ms generalizing ns with
  | nil =>
    cases ns with
    | nil => exact ⟨rfl, h⟩
    | cons n ns =>
      refine absurd ?_ htail.comma
      rw [writeMembers, List.nil_append] at h
      rw [h, writeMembers]
      simp only [List.append_assoc, head?_separator]
  | cons m ms ih =>
    cases ns with
    | nil =>
      refine absurd ?_ htail'.comma
      rw [writeMembers, writeMembers, List.nil_append] at h
      rw [← h]
      simp only [List.append_assoc, head?_separator]
    | cons n ns =>
      obtain ⟨k, v⟩ := m
      obtain ⟨k', v'⟩ := n
      simp only [writeMembers, List.append_assoc] at h
      obtain ⟨rfl, hvalue⟩ := stringText_append_injective (List.append_cancel_left h)
      obtain ⟨rfl, hrest⟩ := hms (k, v) List.mem_cons_self (hns (k, v') List.mem_cons_self)
        (hends ms htail) (hends ns htail') (List.append_cancel_left hvalue)
      obtain ⟨rfl, hend⟩ := ih (fun z hz => hms z (List.mem_cons_of_mem _ hz))
        (fun z hz => hns z (List.mem_cons_of_mem _ hz)) hrest
      exact ⟨rfl, hend⟩

theorem writeList_nil_ne {x : Json} (hx : Plain admits depth x) (xs : List Json)
    (rest rest' : Text) :
    write layout level (.list []) ++ rest ≠ write layout level (.list (x :: xs)) ++ rest' := by
  intro h
  obtain ⟨c, s, hcs, hc⟩ := exists_write hx layout (level + 1)
  have hgap : ∀ c ∈ layout.newLine (level + 1), isSpace c = true :=
    fun c hc => isSpace_of_mem_newLine hc
  have hskip := skipSpace_write hx layout (level + 1) hgap
    (writeItems layout (level + 1) xs ++ (layout.newLine level ++ ']' :: rest'))
  simp only [write, List.cons_append, List.append_assoc, List.nil_append] at h
  rw [← (List.cons.inj h).2, hcs] at hskip
  exact ne_of_opens hc (by decide) (List.cons.inj hskip).1.symm

theorem writeObject_nil_ne (m : Text × Json) (members : List (Text × Json)) (rest rest' : Text) :
    write layout level (.object []) ++ rest ≠
      write layout level (.object (m :: members)) ++ rest' := by
  intro h
  obtain ⟨k, v⟩ := m
  have hskip := skipSpace_newLine layout (level + 1) (c := '"') rfl
    (k.flatMap stringChar ++ ('"' :: (": ".toList ++ (write layout (level + 1) v ++
      (writeMembers layout (level + 1) members ++ (layout.newLine level ++ '\x7d' :: rest'))))))
  simp only [write, stringText, List.cons_append, List.append_assoc, List.nil_append] at h
  rw [← (List.cons.inj h).2] at hskip
  exact absurd (List.cons.inj hskip).1 (by decide)

theorem framed_list {xs : List Json} (hplain : ∀ x ∈ xs, Plain admits depth x)
    (hxs : ∀ x ∈ xs, Framed admits layout (level + 1) x) :
    Framed admits layout level (.list xs) := by
  intro depth' j' rest rest' h' _ _ hwrite
  obtain ⟨ys, rfl⟩ := exists_list_of_family (family_eq (.list hplain) h' hwrite).symm
  cases h' with
  | list hys =>
    cases xs with
    | nil =>
      cases ys with
      | nil => exact ⟨rfl, List.append_cancel_left hwrite⟩
      | cons y ys => exact absurd hwrite (writeList_nil_ne (hys y List.mem_cons_self) ys _ _)
    | cons x xs =>
      cases ys with
      | nil =>
        exact absurd hwrite.symm (writeList_nil_ne (hplain x List.mem_cons_self) xs _ _)
      | cons y ys =>
        -- the first part is one behind a separator, too
        have hitems : writeItems layout (level + 1) (x :: xs) ++
              (layout.newLine level ++ ']' :: rest) =
            writeItems layout (level + 1) (y :: ys) ++
              (layout.newLine level ++ ']' :: rest') := by
          simp only [write, List.cons_append, List.append_assoc, List.nil_append] at hwrite
          have hparts := List.append_cancel_left (List.cons.inj hwrite).2
          simp only [writeItems, List.append_assoc, hparts]
        obtain ⟨hsame, htail⟩ := writeItems_append_injective hxs hys
          (endsParts_newLine layout level (.inl rfl) rest)
          (endsParts_newLine layout level (.inl rfl) rest') hitems
        exact ⟨by rw [hsame], (List.cons.inj (List.append_cancel_left htail)).2⟩

theorem framed_object {members : List (Text × Json)} (hkeys : (members.map Prod.fst).Nodup)
    (hplain : ∀ m ∈ members, Plain admits depth m.2)
    (hmembers : ∀ m ∈ members, Framed admits layout (level + 1) m.2) :
    Framed admits layout level (.object members) := by
  intro depth' j' rest rest' h' _ _ hwrite
  obtain ⟨others, rfl⟩ := exists_object_of_family (family_eq (.object hkeys hplain) h' hwrite).symm
  cases h' with
  | object _ hothers =>
    cases members with
    | nil =>
      cases others with
      | nil => exact ⟨rfl, List.append_cancel_left hwrite⟩
      | cons o others => exact absurd hwrite (writeObject_nil_ne o others _ _)
    | cons m members =>
      cases others with
      | nil => exact absurd hwrite.symm (writeObject_nil_ne m members _ _)
      | cons o others =>
        have hparts : writeMembers layout (level + 1) (m :: members) ++
              (layout.newLine level ++ '\x7d' :: rest) =
            writeMembers layout (level + 1) (o :: others) ++
              (layout.newLine level ++ '\x7d' :: rest') := by
          simp only [write, List.cons_append, List.append_assoc, List.nil_append] at hwrite
          have hparts := List.append_cancel_left (List.cons.inj hwrite).2
          simp only [writeMembers, List.append_assoc, hparts]
        obtain ⟨hsame, htail⟩ := writeMembers_append_injective hmembers hothers
          (endsParts_newLine layout level (.inr rfl) rest)
          (endsParts_newLine layout level (.inr rfl) rest') hparts
        exact ⟨by rw [hsame], (List.cons.inj (List.append_cancel_left htail)).2⟩

end Parts

theorem framed_write {admits : ℤ → Prop} {layout : Layout} {depth : ℕ} {j : Json}
    (h : Plain admits depth j) (level : ℕ) : Framed admits layout level j := by
  induction h generalizing level with
  | null depth =>
    intro _ j' rest rest' h' _ _ hwrite
    obtain rfl := eq_null_of_family (family_eq (.null depth) h' hwrite).symm
    exact ⟨rfl, List.append_cancel_left hwrite⟩
  | bool depth b =>
    intro _ j' rest rest' h' _ _ hwrite
    obtain ⟨b', rfl⟩ := exists_bool_of_family (family_eq (.bool depth b) h' hwrite).symm
    cases b <;> cases b'
    · exact ⟨rfl, List.append_cancel_left hwrite⟩
    · exact absurd (List.cons.inj hwrite).1 (by decide)
    · exact absurd (List.cons.inj hwrite).1 (by decide)
    · exact ⟨rfl, List.append_cancel_left hwrite⟩
  | int depth hn =>
    intro _ j' rest rest' h' hrest hrest' hwrite
    obtain ⟨m, rfl⟩ := exists_int_of_family (family_eq (.int depth hn) h' hwrite).symm
    obtain ⟨rfl, hend⟩ := ofInt_append_injective hrest hrest' hwrite
    exact ⟨rfl, hend⟩
  | text depth s =>
    intro _ j' rest rest' h' _ _ hwrite
    obtain ⟨s', rfl⟩ := exists_text_of_family (family_eq (.text depth s) h' hwrite).symm
    obtain ⟨rfl, hend⟩ := stringText_append_injective hwrite
    exact ⟨rfl, hend⟩
  | list hxs ih => exact framed_list hxs fun x hx => ih x hx (level + 1)
  | object hkeys hmembers ih =>
    exact framed_object hkeys hmembers fun m hm => ih m hm (level + 1)

theorem write_injective {admits : ℤ → Prop} {layout : Layout} {level depth depth' : ℕ}
    {j j' : Json} (h : Plain admits depth j) (h' : Plain admits depth' j')
    (hwrite : write layout level j = write layout level j') : j = j' := by
  have hends : EndsNumber [] := nofun
  have happend : write layout level j ++ [] = write layout level j' ++ [] := by rw [hwrite]
  exact (framed_write h level h' hends hends happend).1

end CommentTags.Json
