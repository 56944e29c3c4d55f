import CommentTags.Proofs.Json.Numbers

namespace CommentTags.Json

/-- Documents without fractions, whose integers are admitted, whose objects have no key twice, and
which lie in one another to the given depth at most. -/
inductive Plain (admits : ℤ → Prop) : ℕ → Json → Prop
  | null (depth : ℕ) : Plain admits depth .null
  | bool (depth : ℕ) (b : Bool) : Plain admits depth (.bool b)
  | int (depth : ℕ) {n : ℤ} (h : admits n) : Plain admits depth (.int n)
  | text (depth : ℕ) (s : Text) : Plain admits depth (.text s)
  | list {depth : ℕ} {xs : List Json} (h : ∀ x ∈ xs, Plain admits depth x) :
    Plain admits (depth + 1) (.list xs)
  | object {depth : ℕ} {members : List (Text × Json)} (hkeys : (members.map Prod.fst).Nodup)
    (h : ∀ m ∈ members, Plain admits depth m.2) : Plain admits (depth + 1) (.object members)

theorem Plain.mono {admits : ℤ → Prop} {depth depth' : ℕ} {j : Json} (h : Plain admits depth j)
    (hdepth : depth ≤ depth') : Plain admits depth' j := by
  induction h generalizing depth' with
  | null depth => exact .null depth'
  | bool depth b => exact .bool depth' b
  | int depth hn => exact .int depth' hn
  | text depth s => exact .text depth' s
  | list hxs ih =>
    obtain ⟨depth', rfl⟩ := Nat.exists_eq_add_one_of_ne_zero (Nat.ne_zero_of_lt hdepth)
    exact .list fun x hx => ih x hx (Nat.le_of_succ_le_succ hdepth)
  | object hkeys hmembers ih =>
    obtain ⟨depth', rfl⟩ := Nat.exists_eq_add_one_of_ne_zero (Nat.ne_zero_of_lt hdepth)
    exact .object hkeys fun m hm => ih m hm (Nat.le_of_succ_le_succ hdepth)

theorem Plain.imp {admits admits' : ℤ → Prop} {depth : ℕ} {j : Json} (h : Plain admits depth j)
    (himp : ∀ n, admits n → admits' n) : Plain admits' depth j := by
  induction h with
  | null depth => exact .null depth
  | bool depth b => exact .bool depth b
  | int depth hn => exact .int depth (himp _ hn)
  | text depth s => exact .text depth s
  | list hxs ih => exact .list ih
  | object hkeys hmembers ih => exact .object hkeys ih

theorem readValue_of_head {s : Text} (h : ∀ c ∈ s.head?, c ≠ '"' ∧ c ≠ '[' ∧ c ≠ '{')
    (fuel depth : ℕ) :
    readValue (fuel + 1) depth s = ((literal? s).map Except.ok).getD (readNumber s) := by
  unfold readValue
  split
  · exact absurd rfl (h '"' rfl).1
  · exact absurd rfl (h '[' rfl).2.1
  · exact absurd rfl (h '[' rfl).2.1
  · exact absurd rfl (h '{' rfl).2.2
  · exact absurd rfl (h '{' rfl).2.2
  · rfl

theorem exists_ofInt (n : ℤ) : ∃ c s, Text.ofInt n = c :: s ∧
    (Text.isDigit c = true ∨ c = '-' ∧ ∃ d ds, s = d :: ds ∧ Text.isDigit d = true) := by
  have hdigit : ∀ m : ℕ, ∃ c s, Text.ofNat m = c :: s ∧ Text.isDigit c = true := by
    intro m
    obtain ⟨c, s, hc⟩ := List.exists_cons_of_ne_nil (Text.ofNat_ne_nil m)
    exact ⟨c, s, hc, Text.isDigit_of_mem_ofNat (n := m) (by simp [hc])⟩
  cases n with
  | ofNat m =>
    obtain ⟨c, s, hc, hd⟩ := hdigit m
    exact ⟨c, s, hc, .inl hd⟩
  | negSucc m => exact ⟨'-', Text.ofNat (m + 1), rfl, .inr ⟨rfl, hdigit (m + 1)⟩⟩

theorem literal?_ofInt (n : ℤ) (rest : Text) : literal? (Text.ofInt n ++ rest) = none := by
  obtain ⟨c, s, hcs, hc⟩ := exists_ofInt n
  rw [hcs, literal?, List.findSome?_eq_none_iff]
  intro w hw
  rw [if_neg]
  intro hp
  obtain ⟨t, ht⟩ := List.isPrefixOf_iff_prefix.mp hp
  simp only [List.mem_cons, List.not_mem_nil, or_false] at hw
  rcases hw with rfl | rfl | rfl | rfl | rfl | rfl
  all_goals
    obtain ⟨rfl, hs⟩ := List.cons.inj ht
    rcases hc with hc | ⟨hc, d, ds, rfl, hd⟩
  case inl => exact absurd hc (by decide)
  all_goals first
    | exact absurd hc (by decide)
    | obtain ⟨rfl, -⟩ := List.cons.inj hs
      exact absurd hd (by decide)

theorem readValue_ofInt {n : ℤ} (hn : IsShort n) {rest : Text} (h : EndsNumber rest)
    (fuel depth : ℕ) :
    readValue (fuel + 1) depth (Text.ofInt n ++ rest) = .ok (.int n, rest) := by
  rw [readValue_of_head, literal?_ofInt, readNumber_ofInt hn h]
  · rfl
  · obtain ⟨c, s, hcs, hc⟩ := exists_ofInt n
    rw [hcs]
    have hne : ∀ x, Text.isDigit x = false → x ≠ '-' → c ≠ x := by
      rintro x hx hminus rfl
      rcases hc with hc | ⟨hc, -⟩
      · rw [hx] at hc
        cases hc
      · exact hminus hc
    rintro _ ⟨⟩
    exact ⟨hne _ rfl (by decide), hne _ rfl (by decide), hne _ rfl (by decide)⟩

theorem skipSpace_append {t : Text} (ht : ∀ c ∈ t, isSpace c = true) (s : Text) :
    skipSpace (t ++ s) = skipSpace s :=
  List.dropWhile_append_of_pos ht

theorem isSpace_of_mem_newLine {layout : Layout} {level : ℕ} {c : Char}
    (h : c ∈ layout.newLine level) : isSpace c = true := by
  cases layout with
  | oneLine => cases h
  | indented width =>
    rcases List.mem_cons.mp h with rfl | h
    · rfl
    · rw [List.eq_of_mem_replicate h]
      rfl

theorem exists_separator (layout : Layout) (level : ℕ) :
    ∃ gap, layout.separator level = ',' :: gap ∧ ∀ c ∈ gap, isSpace c = true := by
  cases layout with
  | oneLine => exact ⟨[' '], rfl, by decide⟩
  | indented width => exact ⟨_, rfl, fun c hc => isSpace_of_mem_newLine hc⟩

def opens (c : Char) : Bool := Text.isDigit c || "-\"[\x7bntf".toList.contains c

theorem exists_write {admits : ℤ → Prop} {depth : ℕ} {j : Json} (h : Plain admits depth j)
    (layout : Layout) (level : ℕ) :
    ∃ c s, write layout level j = c :: s ∧ opens c = true := by
  cases h with
  | null => exact ⟨_, _, rfl, by decide⟩
  | bool _ b => cases b <;> exact ⟨_, _, rfl, by decide⟩
  | @int _ n =>
    obtain ⟨c, s, hcs, hc⟩ := exists_ofInt n
    refine ⟨c, s, hcs, ?_⟩
    rcases hc with hc | ⟨rfl, -⟩
    · rw [opens, hc, Bool.true_or]
    · rfl
  | text _ s => exact ⟨_, _, rfl, by decide⟩
  | @list _ xs =>
    cases xs with
    | nil => exact ⟨_, _, rfl, by decide⟩
    | cons x xs => exact ⟨_, _, by rw [write], by decide⟩
  | @object _ members =>
    cases members with
    | nil => exact ⟨_, _, rfl, by decide⟩
    | cons m members => exact ⟨_, _, by rw [write], by decide⟩

theorem ne_of_opens {c x : Char} (hc : opens c = true) (hx : opens x = false) : c ≠ x := by
  rintro rfl
  rw [hc] at hx
  cases hx

theorem isSpace_of_opens {c : Char} (hc : opens c = true) : isSpace c = false := by
  simp [isSpace, ne_of_opens hc (show opens ' ' = false by decide),
    ne_of_opens hc (show opens '\t' = false by decide),
    ne_of_opens hc (show opens '\n' = false by decide),
    ne_of_opens hc (show opens '\r' = false by decide)]

theorem skipSpace_write {admits : ℤ → Prop} {depth : ℕ} {j : Json} (h : Plain admits depth j)
    (layout : Layout) (level : ℕ) {gap : Text} (hgap : ∀ c ∈ gap, isSpace c = true) (rest : Text) :
    skipSpace (gap ++ (write layout level j ++ rest)) = write layout level j ++ rest := by
  obtain ⟨c, s, hcs, hc⟩ := exists_write h layout level
  rw [skipSpace_append hgap, hcs, List.cons_append, skipSpace, List.dropWhile_cons_of_neg]
  simp [isSpace_of_opens hc]

/-- The text of a document is read, whatever follows that does not go on with a number. -/
def ReadsBack (layout : Layout) (level depth : ℕ) (j : Json) : Prop :=
  ∀ fuel rest, EndsNumber rest → (write layout level j).length ≤ fuel →
    readValue fuel depth (write layout level j ++ rest) = .ok (j, rest)

theorem endsNumber_cons {c : Char} (hc : c ∈ ",]\x7d \n".toList) (rest : Text) :
    EndsNumber (c :: rest) := by
  have hall : ∀ c ∈ ",]\x7d \n".toList, Text.isDigit c = false ∧ c ≠ '.' ∧ c ≠ 'e' ∧ c ≠ 'E' := by
    decide
  rintro _ ⟨⟩
  exact hall c hc

theorem endsNumber_of_isSpace {rest : Text} (h : ∀ c ∈ rest, isSpace c = true) :
    EndsNumber rest := by
  intro c hc
  have hspace := h c (List.mem_of_mem_head? hc)
  simp only [isSpace, Bool.or_eq_true, beq_iff_eq] at hspace
  rcases hspace with ((rfl | rfl) | rfl) | rfl <;> decide

theorem endsNumber_newLine (layout : Layout) (level : ℕ) {c : Char} (hc : c ∈ ",]\x7d \n".toList)
    (rest : Text) : EndsNumber (layout.newLine level ++ c :: rest) := by
  cases layout with
  | oneLine => exact endsNumber_cons hc rest
  | indented width => exact endsNumber_cons (by decide) _

theorem skipSpace_newLine (layout : Layout) (level : ℕ) {c : Char} (hc : isSpace c = false)
    (rest : Text) : skipSpace (layout.newLine level ++ c :: rest) = c :: rest := by
  rw [skipSpace_append (fun c hc => isSpace_of_mem_newLine hc), skipSpace,
    List.dropWhile_cons_of_neg (by simp [hc])]

section Reader

variable {fuel depth : ℕ} {s r r' r'' : Text}

theorem readItems_last {x : Json} (hx : readValue fuel depth s = .ok (x, r))
    (hr : skipSpace r = ']' :: r') : readItems (fuel + 1) depth s = .ok ([x], r') := by
  simp only [readItems, hx, bind, Except.bind, hr, pure, Except.pure]

theorem readItems_more {x : Json} {xs : List Json} (hx : readValue fuel depth s = .ok (x, r))
    (hr : skipSpace r = ',' :: r') (hxs : readItems fuel depth (skipSpace r') = .ok (xs, r'')) :
    readItems (fuel + 1) depth s = .ok (x :: xs, r'') := by
  simp only [readItems, hx, bind, Except.bind, hr, hxs, pure, Except.pure]

theorem readMembers_last {k : Text} {v : Json} (hv : readValue fuel depth s = .ok (v, r))
    (hs : skipSpace s = s) (hr : skipSpace r = '\x7d' :: r') :
    readMembers (fuel + 1) depth (stringText k ++ ": ".toList ++ s) = .ok ([(k, v)], r') := by
  have hk := readString_stringText k (": ".toList ++ s)
  have hcolon : skipSpace (": ".toList ++ s) = ':' :: ' ' :: s := rfl
  have hgap : skipSpace (' ' :: s) = skipSpace s := rfl
  simp only [stringText, List.cons_append, List.append_assoc, List.nil_append] at hk ⊢
  simp only [readMembers, hk, bind, Except.bind, hcolon, hgap, hs, hv, hr, pure, Except.pure]

theorem readMembers_more {k : Text} {v : Json} {members : List (Text × Json)}
    (hv : readValue fuel depth s = .ok (v, r)) (hs : skipSpace s = s) (hr : skipSpace r = ',' :: r')
    (hmembers : readMembers fuel depth (skipSpace r') = .ok (members, r'')) :
    readMembers (fuel + 1) depth (stringText k ++ ": ".toList ++ s) =
      .ok ((k, v) :: members, r'') := by
  have hk := readString_stringText k (": ".toList ++ s)
  have hcolon : skipSpace (": ".toList ++ s) = ':' :: ' ' :: s := rfl
  have hgap : skipSpace (' ' :: s) = skipSpace s := rfl
  simp only [stringText, List.cons_append, List.append_assoc, List.nil_append] at hk ⊢
  simp only [readMembers, hk, bind, Except.bind, hcolon, hgap, hs, hv, hr, hmembers, pure,
    Except.pure]

theorem readValue_list {c : Char} {xs : List Json} (hs : skipSpace r = c :: s) (hc : c ≠ ']')
    (hxs : readItems fuel depth (c :: s) = .ok (xs, r')) :
    readValue (fuel + 1) (depth + 1) ('[' :: r) = .ok (.list xs, r') := by
  simp only [readValue, hs]
  split
  · rename_i heq
    exact absurd (List.cons.inj heq).1 hc
  · rw [hxs]
    rfl

theorem readValue_object {c : Char} {members : List (Text × Json)}
    (hs : skipSpace r = c :: s) (hc : c ≠ '\x7d')
    (hmembers : readMembers fuel depth (c :: s) = .ok (members, r')) :
    readValue (fuel + 1) (depth + 1) ('{' :: r) = .ok (.ofMembers members, r') := by
  simp only [readValue, hs]
  split
  · rename_i heq
    exact absurd (List.cons.inj heq).1 hc
  · rw [hmembers]
    rfl

end Reader

theorem put_of_new {key : Text} {members : List (Text × Json)}
    (h : key ∉ members.map Prod.fst) (value : Json) :
    put key value members = members ++ [(key, value)] := by
  induction members with
  | nil => rfl
  | cons m members ih =>
    obtain ⟨k, v⟩ := m
    simp only [List.map_cons, List.mem_cons, not_or] at h
    rw [put, if_neg (Ne.symm h.1), ih h.2, List.cons_append]

theorem ofMembers_of_nodup {members : List (Text × Json)}
    (h : (members.map Prod.fst).Nodup) : ofMembers members = .object members := by
  have hput : ∀ done : List (Text × Json), ((done ++ members).map Prod.fst).Nodup →
      members.foldl (fun ms m => put m.1 m.2 ms) done = done ++ members := by
    clear h
    induction members with
    | nil => simp
    | cons m members ih =>
      intro done hdone
      have hnew : m.1 ∉ done.map Prod.fst := by
        rw [List.map_append, List.map_cons, List.nodup_append] at hdone
        exact fun hm => hdone.2.2 _ hm _ List.mem_cons_self rfl
      rw [List.foldl_cons, put_of_new hnew, ih _ (by simpa using hdone)]
      simp
  rw [ofMembers, hput [] h, List.nil_append]

section Parts

variable {admits : ℤ → Prop} {layout : Layout} {level depth fuel : ℕ} {tail rest : Text}

theorem readItems_write {x : Json} {xs : List Json} (hplain : ∀ y ∈ x :: xs, Plain admits depth y)
    (hread : ∀ y ∈ x :: xs, ReadsBack layout level depth y) (htail : skipSpace tail = ']' :: rest)
    (hends : EndsNumber tail)
    (hfuel : (write layout level x ++ writeItems layout level xs).length < fuel) :
    readItems fuel depth (write layout level x ++ writeItems layout level xs ++ tail) =
      .ok (x :: xs, rest) := by
  induction xs generalizing x fuel with
  | nil =>
    obtain ⟨fuel, rfl⟩ := Nat.exists_eq_succ_of_ne_zero (Nat.ne_zero_of_lt hfuel)
    rw [writeItems, List.append_nil] at hfuel ⊢
    exact readItems_last (hread x List.mem_cons_self fuel tail hends (by omega)) htail
  | cons y ys ih =>
    obtain ⟨fuel, rfl⟩ := Nat.exists_eq_succ_of_ne_zero (Nat.ne_zero_of_lt hfuel)
    obtain ⟨gap, hsep, hgap⟩ := exists_separator layout level
    rw [writeItems, hsep] at hfuel ⊢
    simp only [List.length_append, List.length_cons] at hfuel
    have hlength : (write layout level y ++ writeItems layout level ys).length < fuel := by
      rw [List.length_append]
      omega
    have hrest := ih (fun z hz => hplain z (List.mem_cons_of_mem x hz))
      (fun z hz => hread z (List.mem_cons_of_mem x hz)) hlength
    have hskip := skipSpace_write (hplain y (by simp)) layout level hgap
      (writeItems layout level ys ++ tail)
    simp only [List.append_assoc, List.cons_append] at hrest ⊢
    apply readItems_more
      (hread x List.mem_cons_self fuel _ (endsNumber_cons (by decide) _) (by omega)) rfl
    rw [hskip]
    exact hrest

theorem readMembers_write {k : Text} {v : Json} {members : List (Text × Json)}
    (hplain : ∀ m ∈ (k, v) :: members, Plain admits depth m.2)
    (hread : ∀ m ∈ (k, v) :: members, ReadsBack layout level depth m.2)
    (htail : skipSpace tail = '\x7d' :: rest) (hends : EndsNumber tail)
    (hfuel : (write layout level v ++ writeMembers layout level members).length < fuel) :
    readMembers fuel depth (stringText k ++ ": ".toList ++
      (write layout level v ++ writeMembers layout level members ++ tail)) =
        .ok ((k, v) :: members, rest) := by
  induction members generalizing k v fuel with
  | nil =>
    obtain ⟨fuel, rfl⟩ := Nat.exists_eq_succ_of_ne_zero (Nat.ne_zero_of_lt hfuel)
    rw [writeMembers, List.append_nil] at hfuel ⊢
    have hv := hread (k, v) List.mem_cons_self fuel tail hends (Nat.le_of_lt_succ hfuel)
    have hskip := skipSpace_write (hplain (k, v) List.mem_cons_self) layout level
      (List.forall_mem_nil _) tail
    exact readMembers_last hv hskip htail
  | cons m ms ih =>
    obtain ⟨fuel, rfl⟩ := Nat.exists_eq_succ_of_ne_zero (Nat.ne_zero_of_lt hfuel)
    obtain ⟨gap, hsep, hgap⟩ := exists_separator layout level
    obtain ⟨k', v'⟩ := m
    rw [writeMembers, hsep] at hfuel ⊢
    simp only [List.length_append, List.length_cons] at hfuel
    have hlength : (write layout level v' ++ writeMembers layout level ms).length < fuel := by
      rw [List.length_append]
      omega
    have hrest := ih (k := k') (fun m hm => hplain m (List.mem_cons_of_mem _ hm))
      (fun m hm => hread m (List.mem_cons_of_mem _ hm)) hlength
    -- what is left to read behind the comma and its white space
    set others := stringText k' ++ ": ".toList ++
      (write layout level v' ++ writeMembers layout level ms ++ tail) with hothers
    have hv := hread (k, v) List.mem_cons_self fuel (',' :: (gap ++ others))
      (endsNumber_cons (by decide) _) (by simp only; omega)
    have hskip := skipSpace_write (hplain (k, v) List.mem_cons_self) layout level
      (List.forall_mem_nil _) (',' :: (gap ++ others))
    have hbehind : skipSpace (gap ++ others) = others := by
      rw [skipSpace_append hgap]
      rfl
    rw [← hbehind] at hrest
    have hmore := readMembers_more (k := k) hv hskip rfl hrest
    simpa only [hothers, List.append_assoc, List.cons_append, List.nil_append] using hmore

theorem readValue_writeList {x : Json} {xs : List Json}
    (hplain : ∀ y ∈ x :: xs, Plain admits depth y)
    (hread : ∀ y ∈ x :: xs, ReadsBack layout (level + 1) depth y)
    (hfuel : (write layout level (.list (x :: xs))).length ≤ fuel + 1) (rest : Text) :
    readValue (fuel + 1) (depth + 1) (write layout level (.list (x :: xs)) ++ rest) =
      .ok (.list (x :: xs), rest) := by
  obtain ⟨c, s, hcs, hc⟩ := exists_write (hplain x List.mem_cons_self) layout (level + 1)
  have hlength :
      (write layout (level + 1) x ++ writeItems layout (level + 1) xs).length < fuel := by
    simp only [write, List.length_cons, List.length_append, List.length_nil] at hfuel ⊢
    omega
  have hitems := readItems_write hplain hread (skipSpace_newLine layout level (c := ']') rfl rest)
    (endsNumber_newLine layout level (by decide) rest) hlength
  have hgap : ∀ c ∈ layout.newLine (level + 1), isSpace c = true :=
    fun c hc => isSpace_of_mem_newLine hc
  have hskip := skipSpace_write (hplain x List.mem_cons_self) layout (level + 1) hgap
    (writeItems layout (level + 1) xs ++ layout.newLine level ++ ']' :: rest)
  rw [write]
  simp only [hcs, List.append_assoc, List.cons_append, List.nil_append] at hitems hskip ⊢
  exact readValue_list hskip (ne_of_opens hc (by decide)) hitems

theorem readValue_writeObject {k : Text} {v : Json} {members : List (Text × Json)}
    (hkeys : (((k, v) :: members).map Prod.fst).Nodup)
    (hplain : ∀ m ∈ (k, v) :: members, Plain admits depth m.2)
    (hread : ∀ m ∈ (k, v) :: members, ReadsBack layout (level + 1) depth m.2)
    (hfuel : (write layout level (.object ((k, v) :: members))).length ≤ fuel + 1) (rest : Text) :
    readValue (fuel + 1) (depth + 1) (write layout level (.object ((k, v) :: members)) ++ rest) =
      .ok (.object ((k, v) :: members), rest) := by
  have hlength :
      (write layout (level + 1) v ++ writeMembers layout (level + 1) members).length < fuel := by
    simp only [write, List.length_cons, List.length_append, List.length_nil] at hfuel ⊢
    omega
  have hmembers := readMembers_write (k := k) hplain hread
    (skipSpace_newLine layout level (c := '\x7d') rfl rest)
    (endsNumber_newLine layout level (by decide) rest) hlength
  have hskip := skipSpace_newLine layout (level + 1) (c := '"') rfl
    (k.flatMap stringChar ++ ['"'] ++ ": ".toList ++ (write layout (level + 1) v ++
      writeMembers layout (level + 1) members ++ (layout.newLine level ++ '\x7d' :: rest)))
  rw [write, ← ofMembers_of_nodup hkeys]
  simp only [stringText, List.append_assoc, List.cons_append, List.nil_append] at hmembers hskip ⊢
  exact readValue_object hskip (by decide) hmembers

theorem readsBack_of_succ {j : Json} (h : Plain admits depth j)
    (hread : ∀ fuel rest, EndsNumber rest → (write layout level j).length ≤ fuel + 1 →
      readValue (fuel + 1) depth (write layout level j ++ rest) = .ok (j, rest)) :
    ReadsBack layout level depth j := by
  intro fuel rest hrest hfuel
  obtain ⟨c, s, hcs, -⟩ := exists_write h layout level
  cases fuel with
  | zero => simp [hcs] at hfuel
  | succ fuel => exact hread fuel rest hrest hfuel

end Parts

theorem readsBack_write {depth : ℕ} {j : Json} (h : Plain IsShort depth j) (layout : Layout)
    (level : ℕ) : ReadsBack layout level depth j := by
  -- what lies in a list or an object is laid out one level deeper, and read with less fuel
  induction h generalizing level with
  | null depth =>
    have h : Plain IsShort depth .null := .null depth
    exact readsBack_of_succ h fun fuel rest hrest hfuel => rfl
  | bool depth b =>
    have h : Plain IsShort depth (.bool b) := .bool depth b
    refine readsBack_of_succ h fun fuel rest hrest hfuel => ?_
    cases b <;> rfl
  | int depth hn =>
    exact readsBack_of_succ (.int depth hn) fun fuel rest hrest _ =>
      readValue_ofInt hn hrest fuel depth
  | text depth s =>
    have h : Plain IsShort depth (.text s) := .text depth s
    refine readsBack_of_succ h fun fuel rest hrest hfuel => ?_
    simp only [write, stringText, List.cons_append, List.append_assoc, List.nil_append, readValue,
      readString_stringText]
    rfl
  | @list depth xs hxs ih =>
    refine readsBack_of_succ (.list hxs) fun fuel rest hrest hfuel => ?_
    cases xs with
    | nil => simp [write, readValue, skipSpace, isSpace]
    | cons x xs => exact readValue_writeList hxs (fun y hy => ih y hy (level + 1)) hfuel rest
  | @object depth members hkeys hmembers ih =>
    refine readsBack_of_succ (.object hkeys hmembers) fun fuel rest hrest hfuel => ?_
    cases members with
    | nil => simp [write, readValue, skipSpace, isSpace]
    | cons m members =>
      exact readValue_writeObject hkeys hmembers (fun m hm => ih m hm (level + 1)) hfuel rest

theorem parse_write {room : ℕ} {j : Json} (h : Plain IsShort room j) (layout : Layout) (level : ℕ)
    {blank : Text} (hblank : ∀ c ∈ blank, isSpace c = true) :
    parse (write layout level j ++ blank) room = .ok j := by
  obtain ⟨c, s, hcs, hc⟩ := exists_write h layout level
  have hskip := skipSpace_write h layout level (List.forall_mem_nil _) blank
  rw [List.nil_append] at hskip
  have hread : readValue (2 * (write layout level j ++ blank).length + 2) room
      (write layout level j ++ blank) = .ok (j, blank) :=
    readsBack_write h layout level _ blank (endsNumber_of_isSpace hblank)
      (by rw [List.length_append]; omega)
  have hend : skipSpace blank = [] := List.dropWhile_eq_nil_iff.mpr hblank
  unfold parse
  split
  · rename_i heq
    rw [hcs] at heq
    exact absurd (List.cons.inj heq).1 (ne_of_opens hc (by decide))
  · rw [hskip, hread]
    simp only [bind, Except.bind, hend, pure, Except.pure]

end CommentTags.Json
