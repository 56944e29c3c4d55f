import CommentTags.Proofs.Json.Characters
import CommentTags.Proofs.Text.LineEnds
import CommentTags.Proofs.Text.Trim

/-!
The lines of indented documents. Each holds, behind its spaces and perhaps a key, one bracket or one
value and perhaps a comma, so that no line starts or ends with a slash, a hash sign, an apostrophe,
an angle bracket or three quotes.
-/

namespace CommentTags

namespace Json

def isEdge (c : Char) : Bool := Text.isDigit c || "-\"[]\x7b\x7d,aeflnrstu".toList.contains c

def tripleQuote : Text := "\"\"\"".toList

/-- A trimmed line that starts and ends like no comment. -/
structure Inert (t : Text) : Prop where
  ne_nil : t ≠ []
  head : ∀ c ∈ t.head?, isEdge c = true
  last : ∀ c ∈ t.getLast?, isEdge c = true
  not_prefix : ¬ tripleQuote <+: t
  not_suffix : ¬ tripleQuote <:+ t

theorem isVisible_of_isEdge {c : Char} (h : isEdge c = true) : IsVisible c := by
  simp only [isEdge, Bool.or_eq_true, List.contains_iff_mem] at h
  rcases h with h | h
  · exact isVisible_of_isDigit h
  · have hall : ∀ c ∈ "-\"[]\x7b\x7d,aeflnrstu".toList, IsVisible c := by decide
    exact hall c h

theorem not_isBlank_of_isEdge {c : Char} (h : isEdge c = true) : Text.isBlank c = false := by
  have hv := isVisible_of_isEdge h
  have hspace : c.toNat ≠ 0x20 := by
    intro hc
    have he : c = ' ' := Char.toNat_inj.mp hc
    rw [he] at h
    cases h
  obtain ⟨hlow, hhigh⟩ := hv
  simp only [Text.isBlank, Bool.or_eq_false_iff, Bool.and_eq_false_iff, decide_eq_false_iff_not,
    beq_eq_false_iff_ne]
  omega

theorem not_prefix_of_head {t : Text} (h : ∀ c ∈ t.head?, c ≠ '"') : ¬ tripleQuote <+: t := by
  rintro ⟨u, rfl⟩
  exact h '"' rfl rfl

theorem not_suffix_of_last {t : Text} (h : ∀ c ∈ t.getLast?, c ≠ '"') : ¬ tripleQuote <:+ t := by
  rintro ⟨u, rfl⟩
  exact h '"' (by simp [tripleQuote]) rfl

theorem exists_unitEscapes {us : List ℕ} (hne : us ≠ []) (hus : ∀ n ∈ us, n < 0x10000) :
    ∃ u x, us.flatMap unitEscape = '\\' :: (u ++ [x]) ∧ x ≠ '"' := by
  have hdigit : ∀ m < 16, m.digitChar ≠ '"' := by decide
  induction us with
  | nil => exact absurd rfl hne
  | cons n us ih =>
    have hn := Text.hex_four (hus n List.mem_cons_self)
    cases us with
    | nil =>
      refine ⟨['u', (n / 4096).digitChar, (n / 256 % 16).digitChar, (n / 16 % 16).digitChar],
        (n % 16).digitChar, ?_, hdigit _ (by omega)⟩
      simp [unitEscape, hn]
    | cons m us =>
      obtain ⟨u, x, hux, hx⟩ := ih (by simp) (fun k hk => hus k (List.mem_cons_of_mem n hk))
      refine ⟨'u' :: (Text.hex 4 n ++ '\\' :: u), x, ?_, hx⟩
      rw [List.flatMap_cons, hux]
      simp [unitEscape]

theorem unitsOf_ne_nil (c : Char) : unitsOf c ≠ [] := by
  unfold unitsOf
  dsimp only
  split <;> simp

theorem stringChar_cases (c : Char) :
    (∃ x u, stringChar c = x :: u ∧ x ≠ '"') ∧
      (stringChar c = ['\\', '"'] ∨ ∃ u x, stringChar c = u ++ [x] ∧ x ≠ '"') := by
  unfold stringChar
  cases hl : escapeLetter? c with
  | some l =>
    refine ⟨⟨'\\', [l], rfl, by decide⟩, ?_⟩
    by_cases he : l = '"'
    · exact .inl (by rw [he])
    · exact .inr ⟨['\\'], l, rfl, he⟩
  | none =>
    dsimp only
    split
    · have hc : c ≠ '"' := by
        rintro rfl
        cases hl
      exact ⟨⟨c, [], rfl, hc⟩, .inr ⟨[], c, rfl, hc⟩⟩
    · obtain ⟨u, x, hux, hx⟩ := exists_unitEscapes (unitsOf_ne_nil c) (unitsOf_lt c)
      exact ⟨⟨'\\', u ++ [x], hux, by decide⟩, .inr ⟨'\\' :: u, x, hux, hx⟩⟩

theorem not_prefix_stringText (s : Text) {more : Text} (h : ∀ c ∈ more.head?, c ≠ '"') :
    ¬ tripleQuote <+: stringText s ++ more := by
  cases s with
  | nil =>
    cases more with
    | nil => decide
    | cons c more =>
      have hc : c ≠ '"' := h c rfl
      simp [stringText, tripleQuote, List.cons_prefix_cons, Ne.symm hc]
  | cons c s =>
    obtain ⟨⟨x, u, hxu, hx⟩, -⟩ := stringChar_cases c
    simp [stringText, tripleQuote, List.cons_prefix_cons, hxu, Ne.symm hx]

theorem not_suffix_stringText (s : Text) {before : Text} (h : ∀ c ∈ before.getLast?, c ≠ '"') :
    ¬ tripleQuote <:+ before ++ stringText s := by
  rw [← List.reverse_prefix]
  rcases List.eq_nil_or_concat s with rfl | ⟨s, c, rfl⟩
  · rw [← List.head?_reverse] at h
    cases hb : before.reverse with
    | nil => simp [hb, stringText, tripleQuote, List.cons_prefix_cons]
    | cons x xs =>
      rw [hb] at h
      simp [hb, stringText, tripleQuote, List.cons_prefix_cons, Ne.symm (h x rfl)]
  · obtain ⟨-, hc | ⟨u, x, hux, hx⟩⟩ := stringChar_cases c
    · simp [stringText, tripleQuote, List.cons_prefix_cons, hc]
    · simp [stringText, tripleQuote, List.cons_prefix_cons, hux, Ne.symm hx]

inductive Piece : Text → Prop
  | string (s : Text) : Piece (stringText s)
  | word {w : Text} (hne : w ≠ []) (h : ∀ c ∈ w, isEdge c = true ∧ c ≠ '"') : Piece w

def Quiet (s : Text) : Prop := ∀ l ∈ s.lines, Inert l.trim

def content (key : Option Text) (piece comma : Text) : Text :=
  key.elim [] (fun k => stringText k ++ ": ".toList) ++ piece ++ comma

section Line

variable (key : Option Text) {p comma : Text}

theorem Piece.ne_nil (hp : Piece p) : p ≠ [] := by
  cases hp with
  | string s => simp [stringText]
  | word hne h => exact hne

theorem Piece.head (hp : Piece p) : ∀ c ∈ p.head?, isEdge c = true := by
  cases hp with
  | string s =>
    rintro _ ⟨⟩
    decide
  | word hne h => exact fun c hc => (h c (List.mem_of_mem_head? hc)).1

theorem Piece.last (hp : Piece p) : ∀ c ∈ p.getLast?, isEdge c = true := by
  cases hp with
  | string s =>
    intro c hc
    simp only [stringText, ← List.cons_append, List.getLast?_concat, Option.mem_some_iff] at hc
    rw [← hc]
    decide
  | word hne h => exact fun c hc => (h c (List.mem_of_getLast? hc)).1

theorem Piece.visible (hp : Piece p) : ∀ c ∈ p, IsVisible c := by
  cases hp with
  | string s => exact fun c hc => isVisible_of_mem_stringText hc
  | word hne h => exact fun c hc => isVisible_of_isEdge (h c hc).1

theorem not_prefix_content (hp : Piece p) (hcomma : comma = [] ∨ comma = [',']) :
    ¬ tripleQuote <+: content key p comma := by
  cases key with
  | some k =>
    simp only [content, Option.elim_some, List.append_assoc]
    exact not_prefix_stringText k (by rintro _ ⟨⟩; decide)
  | none =>
    simp only [content, Option.elim_none, List.nil_append]
    cases hp with
    | string s =>
      apply not_prefix_stringText s
      rcases hcomma with rfl | rfl <;> simp
    | word hne h =>
      apply not_prefix_of_head
      rw [List.head?_append_of_ne_nil _ hne]
      exact fun c hc => (h c (List.mem_of_mem_head? hc)).2

theorem not_suffix_content (hp : Piece p) (hcomma : comma = [] ∨ comma = [',']) :
    ¬ tripleQuote <:+ content key p comma := by
  rcases hcomma with rfl | rfl
  · rw [content, List.append_nil]
    cases hp with
    | string s =>
      apply not_suffix_stringText s
      cases key with
      | none => simp
      | some k => simp
    | word hne h =>
      apply not_suffix_of_last
      rw [List.getLast?_append_of_ne_nil _ hne]
      exact fun c hc => (h c (List.mem_of_getLast? hc)).2
  · apply not_suffix_of_last
    simp [content]

theorem inert_content (hp : Piece p) (hcomma : comma = [] ∨ comma = [',']) :
    Inert (content key p comma) where
  ne_nil := by simp [content, hp.ne_nil]
  head := by
    cases key with
    | none =>
      simp only [content, Option.elim_none, List.nil_append]
      rw [List.head?_append_of_ne_nil _ hp.ne_nil]
      exact hp.head
    | some k =>
      rintro _ ⟨⟩
      decide
  last := by
    rcases hcomma with rfl | rfl
    · rw [content, List.append_nil, List.getLast?_append_of_ne_nil _ hp.ne_nil]
      exact hp.last
    · intro c hc
      simp only [content, List.getLast?_concat, Option.mem_some_iff] at hc
      rw [← hc]
      decide
  not_prefix := not_prefix_content key hp hcomma
  not_suffix := not_suffix_content key hp hcomma

theorem newLine_not_mem_content (hp : Piece p) (hcomma : comma = [] ∨ comma = [',']) :
    '\n' ∉ content key p comma := by
  have hvisible : ∀ c ∈ content key p comma, IsVisible c := by
    have hkey : ∀ c ∈ key.elim [] (fun k => stringText k ++ ": ".toList), IsVisible c := by
      cases key with
      | none => simp
      | some k =>
        have hcolon : ∀ c ∈ ": ".toList, IsVisible c := by decide
        exact List.forall_mem_append.mpr ⟨fun c hc => isVisible_of_mem_stringText hc, hcolon⟩
    have hcomma : ∀ c ∈ comma, IsVisible c := by rcases hcomma with rfl | rfl <;> decide
    simp only [content, List.forall_mem_append]
    exact ⟨⟨hkey, hp.visible⟩, hcomma⟩
  intro h
  have h := hvisible _ h
  revert h
  decide

theorem trim_line (indent : ℕ) {t : Text} (ht : Inert t) :
    Text.trim (List.replicate indent ' ' ++ t ++ ['\n']) = t := by
  have htrim : t.trim = t := (Text.trim_eq_self_iff t).mpr
    ⟨fun c hc => not_isBlank_of_isEdge (ht.head c hc),
      fun c hc => not_isBlank_of_isEdge (ht.last c hc)⟩
  have hspaces : ∀ c ∈ List.replicate indent ' ', Text.isBlank c = true := by
    intro c hc
    rw [List.eq_of_mem_replicate hc]
    rfl
  rw [Text.trim_append_of_blank (by decide), Text.trim, List.dropWhile_append_of_pos hspaces]
  exact htrim

theorem quiet_cons (indent : ℕ) (hp : Piece p) (hcomma : comma = [] ∨ comma = [',']) {rest : Text}
    (hrest : Quiet rest) :
    Quiet (List.replicate indent ' ' ++ content key p comma ++ '\n' :: rest) := by
  have hinert := inert_content key hp hcomma
  have hline : '\n' ∉ List.replicate indent ' ' ++ content key p comma := by
    simp [List.mem_replicate, newLine_not_mem_content key hp hcomma]
  rw [Quiet, Text.lines_append_cons hline]
  refine List.forall_mem_cons.mpr ⟨?_, hrest⟩
  rw [trim_line indent hinert]
  exact hinert

end Line

/-- The lines that a document takes part in are inert, whatever stands around it. -/
def Unobtrusive (width level : ℕ) (j : Json) : Prop :=
  ∀ (indent : ℕ) (key : Option Text) (comma rest : Text), comma = [] ∨ comma = [','] → Quiet rest →
    Quiet (List.replicate indent ' ' ++ content key (write (.indented width) level j) comma ++
      '\n' :: rest)

theorem unobtrusive_of_piece {width level : ℕ} {j : Json}
    (h : Piece (write (.indented width) level j)) : Unobtrusive width level j :=
  fun indent key _ _ hcomma hrest => quiet_cons key indent h hcomma hrest

theorem piece_ofInt (n : ℤ) : Piece (Text.ofInt n) := by
  have hdigit : ∀ (m : ℕ), ∀ c ∈ Text.ofNat m, isEdge c = true ∧ c ≠ '"' := by
    intro m c hc
    have hd := Text.isDigit_of_mem_ofNat hc
    refine ⟨by rw [isEdge, hd, Bool.true_or], ?_⟩
    rintro rfl
    cases hd
  cases n with
  | ofNat m => exact .word (Text.ofNat_ne_nil m) (hdigit m)
  | negSucc m =>
    refine .word (List.cons_ne_nil _ _) (List.forall_mem_cons.mpr ⟨?_, hdigit (m + 1)⟩)
    decide

section Parts

variable {width level : ℕ} {rest : Text}

theorem quiet_items {x : Json} {xs : List Json} (hxs : ∀ y ∈ x :: xs, Unobtrusive width level y)
    (hrest : Quiet rest) :
    Quiet (List.replicate (width * level) ' ' ++ write (.indented width) level x ++
      writeItems (.indented width) level xs ++ '\n' :: rest) := by
  induction xs generalizing x with
  | nil =>
    simpa [content, writeItems] using hxs x List.mem_cons_self _ none [] rest (.inl rfl) hrest
  | cons y ys ih =>
    have hbehind := ih (fun z hz => hxs z (List.mem_cons_of_mem x hz))
    have hfirst := hxs x List.mem_cons_self (width * level) none _ _ (.inr rfl) hbehind
    simpa [content, writeItems, Layout.separator, Layout.newLine] using hfirst

theorem quiet_members {k : Text} {v : Json} {members : List (Text × Json)}
    (hmembers : ∀ m ∈ (k, v) :: members, Unobtrusive width level m.2) (hrest : Quiet rest) :
    Quiet (List.replicate (width * level) ' ' ++ stringText k ++ ": ".toList ++
      write (.indented width) level v ++ writeMembers (.indented width) level members ++
      '\n' :: rest) := by
  induction members generalizing k v with
  | nil =>
    simpa [content, writeMembers] using
      hmembers (k, v) List.mem_cons_self _ (some k) [] rest (.inl rfl) hrest
  | cons m ms ih =>
    have hbehind := ih (k := m.1) (v := m.2) (fun n hn => hmembers n (List.mem_cons_of_mem _ hn))
    have hfirst :=
      hmembers (k, v) List.mem_cons_self (width * level) (some k) _ _ (.inr rfl) hbehind
    simpa [content, writeMembers, Layout.separator, Layout.newLine] using hfirst

end Parts

theorem unobtrusive {admits : ℤ → Prop} {depth : ℕ} {j : Json} (h : Plain admits depth j)
    (width level : ℕ) : Unobtrusive width level j := by
  -- the lines of a list or an object are put in front of what follows from the last to the first
  induction h generalizing level with
  | null depth => exact unobtrusive_of_piece (.word (w := "null".toList) (by decide) (by decide))
  | bool depth b =>
    apply unobtrusive_of_piece
    cases b with
    | false => exact .word (w := "false".toList) (by decide) (by decide)
    | true => exact .word (w := "true".toList) (by decide) (by decide)
  | int depth hn => exact unobtrusive_of_piece (piece_ofInt _)
  | text depth s => exact unobtrusive_of_piece (.string s)
  | @list depth xs hxs ih =>
    cases xs with
    | nil => exact unobtrusive_of_piece (.word (w := "[]".toList) (by decide) (by decide))
    | cons x xs =>
      intro indent key comma rest hcomma hrest
      have hclose := quiet_cons none (width * level)
        (.word (w := "]".toList) (by decide) (by decide)) hcomma hrest
      have hitems := quiet_items (fun y hy => ih y hy (level + 1)) hclose
      have hopen := quiet_cons key indent (.word (w := "[".toList) (by decide) (by decide))
        (.inl rfl) hitems
      simpa [content, write, Layout.newLine] using hopen
  | @object depth members hkeys hmembers ih =>
    cases members with
    | nil => exact unobtrusive_of_piece (.word (w := "\x7b\x7d".toList) (by decide) (by decide))
    | cons m members =>
      intro indent key comma rest hcomma hrest
      have hclose := quiet_cons none (width * level)
        (.word (w := "\x7d".toList) (by decide) (by decide)) hcomma hrest
      have hmembers := quiet_members (k := m.1) (v := m.2) (fun n hn => ih n hn (level + 1)) hclose
      have hopen := quiet_cons key indent (.word (w := "\x7b".toList) (by decide) (by decide))
        (.inl rfl) hmembers
      simpa [content, write, Layout.newLine] using hopen

theorem quiet_write {admits : ℤ → Prop} {depth : ℕ} {j : Json} (h : Plain admits depth j)
    (width level : ℕ) : Quiet (write (.indented width) level j ++ ['\n']) := by
  have hnil : Quiet [] := List.forall_mem_nil _
  simpa [content] using unobtrusive h width level 0 none [] [] (.inl rfl) hnil

end Json

end CommentTags
