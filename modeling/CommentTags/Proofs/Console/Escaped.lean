import CommentTags.Console.Table
import Mathlib.Data.List.TakeWhile

namespace CommentTags.Console

variable {s t body rest behind : Text}

theorem exists_of_tagEnd? (h : tagEnd? s = some (body, rest)) :
    s = body ++ ']' :: rest ∧ ∀ other, tagEnd? (body ++ ']' :: other) = some (body, other) := by
  induction s generalizing body with
  | nil => cases h
  | cons c s ih =>
    unfold tagEnd? at h
    split at h
    · rename_i hc
      subst hc
      obtain ⟨rfl, rfl⟩ := Prod.mk.inj (Option.some.inj h)
      exact ⟨rfl, fun other => rfl⟩
    · rename_i hclose
      split at h
      · cases h
      · rename_i hopen
        obtain ⟨⟨inner, r⟩, hinner, he⟩ := Option.map_eq_some_iff.mp h
        obtain ⟨rfl, rfl⟩ := Prod.mk.inj he
        obtain ⟨rfl, hother⟩ := ih hinner
        refine ⟨rfl, fun other => ?_⟩
        rw [List.cons_append, tagEnd?, if_neg hclose, if_neg hopen, hother]
        rfl

theorem exists_of_tagAt? (h : tagAt? s = some (body, rest)) : s = bracketed body ++ rest ∧
    ∀ other, tagAt? (bracketed body ++ other) = some (body, other) := by
  unfold tagAt? at h
  split at h
  · split at h
    · rename_i c s' hopens
      obtain ⟨⟨inner, r⟩, hinner, he⟩ := Option.map_eq_some_iff.mp h
      obtain ⟨rfl, rfl⟩ := Prod.mk.inj he
      obtain ⟨rfl, hother⟩ := exists_of_tagEnd? hinner
      refine ⟨by simp [bracketed], fun other => ?_⟩
      have hbracketed : bracketed (c :: inner) ++ other = '[' :: c :: (inner ++ ']' :: other) := by
        simp [bracketed]
      rw [hbracketed, tagAt?, if_pos hopens, hother]
      rfl
    · cases h
  · cases h

theorem tagEnd?_of_not_mem (h : ']' ∉ s) : tagEnd? s = none := by
  induction s with
  | nil => rfl
  | cons c s ih =>
    rw [List.mem_cons, not_or] at h
    rw [tagEnd?, if_neg (Ne.symm h.1), ih h.2]
    split <;> rfl

theorem tagAt?_of_head (h : s.head? ≠ some '[') : tagAt? s = none := by
  unfold tagAt?
  split
  · exact absurd rfl h
  · rfl

theorem head?_dropWhile_ne (h : '[' ∉ s) (p : Char → Bool) :
    (s.dropWhile p).head? ≠ some '[' := by
  intro hhead
  exact h ((List.dropWhile_sublist p).subset (List.mem_of_mem_head? hhead))

theorem dropWhile_slashes (n : ℕ) (hs : s.head? ≠ some '\\') :
    (slashes n ++ s).dropWhile (· == '\\') = s := by
  rw [List.dropWhile_append_of_pos fun c hc => by simp [List.eq_of_mem_replicate hc]]
  cases s with
  | nil => rfl
  | cons c s => exact List.dropWhile_cons_of_neg (by simpa using hs)

theorem takeWhile_slashes (n : ℕ) (hs : s.head? ≠ some '\\') :
    ((slashes n ++ s).takeWhile (· == '\\')).length = n := by
  rw [List.takeWhile_append_of_pos fun c hc => by simp [List.eq_of_mem_replicate hc]]
  cases s with
  | nil => simp [slashes]
  | cons c s => rw [List.takeWhile_cons_of_neg (by simpa using hs)]; simp [slashes]

theorem eq_slashes_append (s : Text) :
    s = slashes (s.takeWhile (· == '\\')).length ++ s.dropWhile (· == '\\') := by
  have hall : s.takeWhile (· == '\\') = slashes (s.takeWhile (· == '\\')).length := by
    refine List.eq_replicate_iff.mpr ⟨rfl, fun c hc => ?_⟩
    simpa using List.mem_takeWhile_imp hc
  rw [← hall, List.takeWhile_append_dropWhile]

theorem pieces_tag (n : ℕ) (h : tagAt? (bracketed body ++ rest) = some (body, rest)) :
    pieces (slashes n ++ (bracketed body ++ rest)) = .tag n body :: pieces rest := by
  have hhead : (bracketed body ++ rest).head? ≠ some '\\' := by simp [bracketed]
  rw [pieces]
  split
  · rename_i body' rest' h'
    rw [dropWhile_slashes n hhead, h] at h'
    obtain ⟨rfl, rfl⟩ := Prod.mk.inj (Option.some.inj h')
    rw [takeWhile_slashes n hhead]
  · rename_i h'
    rw [dropWhile_slashes n hhead, h] at h'
    cases h'

theorem pieces_cons {c : Char} (h : tagAt? ((c :: s).dropWhile (· == '\\')) = none) :
    pieces (c :: s) = consPlain c (pieces s) := by
  rw [pieces]
  split
  · rename_i h'
    rw [h] at h'
    cases h'
  · rfl

def shielded (s : Text) : Text := (pieces s).flatMap Piece.escaped

theorem shielded_nil : shielded [] = [] := by
  rw [shielded, pieces]
  rfl

theorem shielded_tag (n : ℕ) (h : tagAt? (bracketed body ++ rest) = some (body, rest)) :
    shielded (slashes n ++ (bracketed body ++ rest)) =
      slashes (2 * n + 1) ++ (bracketed body ++ shielded rest) := by
  rw [shielded, pieces_tag n h, List.flatMap_cons, Piece.escaped, List.append_assoc, shielded]

theorem shielded_cons {c : Char} (h : tagAt? ((c :: s).dropWhile (· == '\\')) = none) :
    shielded (c :: s) = c :: shielded s := by
  rw [shielded, pieces_cons h, shielded]
  cases pieces s with
  | nil => rfl
  | cons p ps => cases p <;> simp [consPlain, Piece.escaped]

theorem shielded_induction {motive : Text → Prop} (nil : motive [])
    (tag : ∀ n body rest, (∀ other, tagAt? (bracketed body ++ other) = some (body, other)) →
      motive rest → motive (slashes n ++ (bracketed body ++ rest)))
    (cons : ∀ c s, tagAt? ((c :: s).dropWhile (· == '\\')) = none → motive s → motive (c :: s))
    (s : Text) : motive s := by
  fun_induction pieces s with
  | case1 s body rest h ih =>
    obtain ⟨hs, hother⟩ := exists_of_tagAt? h
    rw [eq_slashes_append s, hs]
    exact tag _ body rest hother ih
  | case2 => exact nil
  | case3 c s h ih => exact cons c s h ih

theorem tagEnd?_shielded (h : tagEnd? s = none) (hbehind : ']' ∉ behind) :
    tagEnd? (shielded s ++ behind) = none := by
  induction s using shielded_induction with
  | nil => rw [shielded_nil]; exact tagEnd?_of_not_mem hbehind
  | tag n body rest hother ih =>
    rw [shielded_tag n (hother rest)]
    generalize 2 * n + 1 = k
    induction k with
    | zero => rfl
    | succ k ihk =>
      rw [slashes, List.replicate_succ, List.cons_append, List.cons_append, tagEnd?,
        if_neg (by decide), if_neg (by decide), ← slashes, ihk]
      rfl
  | cons c s hc ih =>
    rw [shielded_cons hc, List.cons_append]
    unfold tagEnd? at h ⊢
    split at h
    · cases h
    · rename_i hclose
      rw [if_neg hclose]
      split at h
      · rename_i hopen
        rw [if_pos hopen]
      · rename_i hopen
        rw [if_neg hopen, ih (Option.map_eq_none_iff.mp h)]
        rfl

theorem opensTag_head_shielded {c x : Char} (hc : opensTag c = false)
    (hx : x ∈ (shielded (c :: s) ++ behind).head?) : opensTag x = false := by
  generalize hs : c :: s = whole at hx
  induction whole using shielded_induction with
  | nil => cases hs
  | tag n body rest hother ih =>
    rw [shielded_tag n (hother rest), slashes, List.replicate_succ] at hx
    obtain rfl : '\\' = x := by simpa using hx
    decide
  | cons d s' hd ih =>
    obtain ⟨rfl, rfl⟩ := List.cons.inj hs
    rw [shielded_cons hd] at hx
    obtain rfl : c = x := by simpa using hx
    exact hc

theorem tagAt?_bracket_shielded (h : tagAt? ('[' :: s) = none) (hbehind : ']' ∉ behind) :
    tagAt? ('[' :: (shielded s ++ behind)) = none := by
  cases s with
  | nil =>
    rw [shielded_nil, List.nil_append]
    cases behind with
    | nil => rfl
    | cons d behind =>
      rw [tagAt?, tagEnd?_of_not_mem (List.not_mem_of_not_mem_cons hbehind)]
      split <;> rfl
  | cons d s =>
    rw [tagAt?] at h
    by_cases hopens : opensTag d = true
    · -- the text goes on like a tag that does not end
      rw [if_pos hopens, Option.map_eq_none_iff] at h
      have hne : ∀ x, opensTag x = false → d ≠ x := by
        rintro x hx rfl
        rw [hopens] at hx
        cases hx
      have hd : tagAt? ((d :: s).dropWhile (· == '\\')) = none := by
        rw [List.dropWhile_cons_of_neg (by simpa using hne '\\' (by decide))]
        exact tagAt?_of_head (by simpa using hne '[' (by decide))
      rw [shielded_cons hd, List.cons_append, tagAt?, if_pos hopens, tagEnd?_shielded h hbehind]
      rfl
    · have hhead : ∀ x ∈ (shielded (d :: s) ++ behind).head?, opensTag x = false :=
        fun x hx => opensTag_head_shielded (Bool.eq_false_iff.mpr hopens) hx
      cases hshown : shielded (d :: s) ++ behind with
      | nil => rfl
      | cons x rest =>
        rw [hshown] at hhead
        rw [tagAt?, hhead x rfl]
        rfl

theorem tagAt?_shielded (h : tagAt? (s.dropWhile (· == '\\')) = none) (hopen : '[' ∉ behind)
    (hclose : ']' ∉ behind) :
    tagAt? ((shielded s ++ behind).dropWhile (· == '\\')) = none := by
  induction s using shielded_induction with
  | nil =>
    rw [shielded_nil, List.nil_append]
    exact tagAt?_of_head (head?_dropWhile_ne hopen _)
  | tag n body rest hother ih =>
    rw [dropWhile_slashes n (by simp [bracketed]), hother] at h
    cases h
  | cons c s hc ih =>
    rw [shielded_cons hc, List.cons_append]
    by_cases hslash : c = '\\'
    · subst hslash
      rw [List.dropWhile_cons_of_pos (by decide)] at h ⊢
      exact ih h
    · rw [List.dropWhile_cons_of_neg (by simpa using hslash)] at h ⊢
      by_cases hbracket : c = '['
      · subst hbracket
        exact tagAt?_bracket_shielded h hclose
      · exact tagAt?_of_head (by simpa using hbracket)

namespace Piece

def IsShown : Piece → Prop
  | .plain _ => True
  | .tag n _ => n % 2 = 1

end Piece

theorem isShown_consPlain {ps : List Piece} (h : ∀ p ∈ ps, p.IsShown) (c : Char) :
    ∀ p ∈ consPlain c ps, p.IsShown := by
  unfold consPlain
  split
  · rw [List.forall_mem_cons] at h ⊢
    exact ⟨trivial, h.2⟩
  · exact List.forall_mem_cons.mpr ⟨trivial, h⟩

theorem isShown_of_not_mem (h : '[' ∉ s) : ∀ p ∈ pieces s, p.IsShown := by
  induction s with
  | nil =>
    rw [pieces]
    exact List.forall_mem_nil _
  | cons c s ih =>
    rw [pieces_cons (tagAt?_of_head (head?_dropWhile_ne h _))]
    exact isShown_consPlain (ih (List.not_mem_of_not_mem_cons h)) c

theorem isShown_shielded (hopen : '[' ∉ behind) (hclose : ']' ∉ behind) :
    ∀ p ∈ pieces (shielded s ++ behind), p.IsShown := by
  induction s using shielded_induction with
  | nil =>
    rw [shielded_nil]
    exact isShown_of_not_mem hopen
  | tag n body rest hother ih =>
    rw [shielded_tag n (hother rest), List.append_assoc, List.append_assoc,
      pieces_tag _ (hother _)]
    refine List.forall_mem_cons.mpr ⟨?_, ih⟩
    show (2 * n + 1) % 2 = 1
    omega
  | cons c s hc ih =>
    have hnone := tagAt?_shielded hc hopen hclose
    rw [shielded_cons hc, List.cons_append] at hnone ⊢
    rw [pieces_cons hnone]
    exact isShown_consPlain ih c

theorem exists_escape_eq (s : Text) : ∃ tail, escape s = shielded s ++ tail ∧ tail ⊆ ['\\'] := by
  unfold escape
  dsimp only
  split
  · exact ⟨[], (List.append_nil _).symm, List.nil_subset _⟩
  · exact ⟨['\\'], rfl, fun _ h => h⟩
  · exact ⟨[], (List.append_nil _).symm, List.nil_subset _⟩

theorem isShown_escape (hopen : '[' ∉ behind) (hclose : ']' ∉ behind) :
    ∀ p ∈ pieces (escape s ++ behind), p.IsShown := by
  obtain ⟨tail, hescape, htail⟩ := exists_escape_eq s
  have hne : ∀ c ∈ tail, c = '\\' := fun c hc => List.mem_singleton.mp (htail hc)
  rw [hescape, List.append_assoc]
  apply isShown_shielded
  · rw [List.mem_append, not_or]
    exact ⟨fun h => absurd (hne _ h) (by decide), hopen⟩
  · rw [List.mem_append, not_or]
    exact ⟨fun h => absurd (hne _ h) (by decide), hclose⟩

theorem isShown_append {front : Text} (hfront : ∀ c ∈ front, c ≠ '[' ∧ c ≠ '\\')
    (h : ∀ p ∈ pieces s, p.IsShown) : ∀ p ∈ pieces (front ++ s), p.IsShown := by
  induction front with
  | nil => exact h
  | cons c front ih =>
    rw [List.forall_mem_cons] at hfront
    have hnone : tagAt? ((c :: (front ++ s)).dropWhile (· == '\\')) = none := by
      rw [List.dropWhile_cons_of_neg (by simpa using hfront.1.2)]
      exact tagAt?_of_head (by simpa using hfront.1.1)
    rw [List.cons_append, pieces_cons hnone]
    exact isShown_consPlain (ih hfront.2) c

theorem renderFrom_of_isShown {ps : List Piece} (h : ∀ p ∈ ps, p.IsShown) (position place : ℕ)
    (styling : Styling) : ∃ text stop,
      renderFrom position place styling ps = .ok ⟨text, styling.finish stop⟩ := by
  induction ps generalizing position place with
  | nil => exact ⟨[], place, rfl⟩
  | cons p ps ih =>
    obtain ⟨hp, hps⟩ := List.forall_mem_cons.mp h
    cases p with
    | plain plain =>
      obtain ⟨text, stop, hrest⟩ := ih hps (position + plain.length)
        (place + (shownText (unescaped plain)).length)
      refine ⟨shownText (unescaped plain) ++ text, stop, ?_⟩
      rw [renderFrom, hrest]
      rfl
    | tag n body =>
      have hodd : n % 2 = 1 := hp
      obtain ⟨text, stop, hrest⟩ := ih hps (position + (Piece.tag n body).size)
        (place + (slashes (n / 2) ++ shownText (bracketed body)).length)
      refine ⟨slashes (n / 2) ++ shownText (bracketed body) ++ text, stop, ?_⟩
      rw [renderFrom, if_pos hodd]
      dsimp only
      rw [hrest]
      rfl

theorem renderFrom_tag {position place : ℕ} {styling styling' : Styling} {ps : List Piece}
    (h : styling.apply body position place = .ok styling') :
    renderFrom position place styling (.tag 0 body :: ps) =
      renderFrom (position + (Piece.tag 0 body).size) place styling' ps := by
  have hbehind : ∀ t : StyledText, t.behind [] = t := fun _ => rfl
  rw [renderFrom, if_neg (by decide)]
  rw [Nat.add_zero, show slashes (0 / 2) = [] from rfl, List.length_nil, Nat.add_zero, h]
  simp only [bind, Except.bind, hbehind]
  cases renderFrom (position + (Piece.tag 0 body).size) place styling' ps <;> rfl

theorem exists_error_of_closing {name : Text}
    (h : tagAt? (bracketed ('/' :: name) ++ rest) = some ('/' :: name, rest)) :
    ∃ e, render (bracketed ('/' :: name) ++ rest) = .error e := by
  have happly : ∃ e, Styling.apply ⟨[], []⟩ ('/' :: name) 0 0 = .error e := by
    obtain ⟨word, value, hcut⟩ : ∃ word value,
        Text.cut '=' ('/' :: name) = ('/' :: word, value) := ⟨_, _, rfl⟩
    unfold Styling.apply
    rw [hcut]
    split
    · rename_i word' _ _
      by_cases hempty : (Text.trim word').isEmpty = true
      · rw [if_pos hempty]
        exact ⟨_, rfl⟩
      · rw [if_neg hempty]
        cases (styleName (Text.trim word')).mapError MarkupError.number with
        | error e => exact ⟨e, rfl⟩
        | ok style => exact ⟨_, rfl⟩
    · rename_i hslash heq
      obtain ⟨rfl, rfl⟩ := Prod.mk.inj heq
      exact (hslash _ rfl).elim
  obtain ⟨e, he⟩ := happly
  have hpieces := pieces_tag 0 h
  rw [slashes, List.replicate_zero, List.nil_append] at hpieces
  refine ⟨e, ?_⟩
  rw [render, hpieces, renderFrom, if_neg (by decide), Nat.add_zero,
    show slashes (0 / 2) = [] from rfl, List.length_nil, Nat.add_zero, he]
  rfl

/-- The words of every span can be read, or are no words for a style. -/
def StyledText.IsSound (t : StyledText) : Prop :=
  ∀ span ∈ t.spans, ∀ e, Style.ofWords span.style ≠ .error (.number e)

theorem StyledText.IsSound.fault? {t : StyledText} (h : t.IsSound) : t.fault? = none := by
  refine List.findSome?_eq_none_iff.mpr fun span hspan => ?_
  split
  · rename_i e he
    exact absurd he (h span hspan e)
  · rfl

theorem StyledText.IsSound.exists_lines {t : StyledText} (h : t.IsSound) (width : ℕ) :
    ∃ lines, t.lines width = .ok lines := by
  have hwithout : t.withoutEmptySpans.IsSound :=
    fun span hspan => h span (List.mem_filter.mp hspan).1
  unfold lines
  dsimp only
  split
  · rename_i e he
    split at he
    · rw [hwithout.fault?] at he
      cases he
    · rw [h.fault?] at he
      cases he
  · exact ⟨_, rfl⟩

theorem isSound_finish {text : Text} {closed : List Span} (stop : ℕ)
    (h : ∀ span ∈ closed, ∀ e, Style.ofWords span.style ≠ .error (.number e)) :
    StyledText.IsSound ⟨text, Styling.finish ⟨[], closed⟩ stop⟩ := by
  intro span hspan
  have hmem : span ∈ closed.mergeSort (fun a b => a.start ≤ b.start) := hspan
  exact h span (List.mem_mergeSort.mp hmem)

theorem exists_render_of_isShown {markup : Text} (h : ∀ p ∈ pieces markup, p.IsShown) :
    ∃ t, render markup = .ok t ∧ t.IsSound := by
  obtain ⟨text, stop, hrender⟩ := renderFrom_of_isShown h 0 0 ⟨[], []⟩
  exact ⟨_, hrender, isSound_finish stop (List.forall_mem_nil _)⟩

theorem exists_printed_of_render {markup : Text} {t : StyledText} (h : render markup = .ok t)
    (ht : t.IsSound) (width : ℕ) : ∃ text, printed width markup = .ok text := by
  obtain ⟨lines, hlines⟩ := ht.exists_lines width
  simp only [printed, h, bind, Except.bind, hlines]
  exact ⟨_, rfl⟩

theorem exists_printed_escape {front : Text} (hfront : ∀ c ∈ front, c ≠ '[' ∧ c ≠ '\\')
    (s : Text) (hopen : '[' ∉ behind) (hclose : ']' ∉ behind) (width : ℕ) :
    ∃ text, printed width (front ++ (escape s ++ behind)) = .ok text := by
  obtain ⟨t, ht, hsound⟩ := exists_render_of_isShown
    (isShown_append hfront (isShown_escape (s := s) hopen hclose))
  exact exists_printed_of_render ht hsound width

section Success

theorem contains_colorNames_success : colorNames.contains "success".toList = false := by
  -- as lists of characters the names are looked through at once
  simp only [colorNames, colorLines, List.flatMap_cons, List.flatMap_nil]
  repeat rw [String.toList_ofList]
  decide +kernel

theorem color_success : color "success".toList = .error .unknown := by
  have hname : Text.lower "success".toList = "success".toList := by decide +kernel
  have hcolor : arguments? "color".toList "success".toList = none := by decide +kernel
  have hrgb : arguments? "rgb".toList "success".toList = none := by decide +kernel
  have hhead : ∀ digits, "success".toList ≠ '#' :: digits := by
    rw [String.toList_ofList]
    exact nofun
  unfold color
  rw [hname]
  dsimp only
  rw [hcolor, hrgb]
  split
  · rename_i heq
    exact absurd heq (hhead _)
  · rename_i hnone _
    cases hnone
  · rename_i hnone _ _
    cases hnone
  · rw [contains_colorNames_success]
    rfl

theorem ofWords_success : Style.ofWords "success".toList = .error .unknown := by
  have hfields : Text.fields "success".toList = ["success".toList] := by decide +kernel
  have hname : Text.lower "success".toList = "success".toList := by decide +kernel
  have hattribute : Attribute.ofName? "success".toList = none := by decide +kernel
  rw [Style.ofWords, if_neg (by decide +kernel), hfields, Style.describe, hname,
    if_neg (by decide +kernel), if_neg (by decide +kernel), if_neg (by decide +kernel), hattribute,
    color_success]
  rfl

theorem styleName_success : styleName "success".toList = .ok "success".toList := by
  have hname : Text.lower (Text.trim "success".toList) = "success".toList := by decide +kernel
  rw [styleName, ofWords_success, hname]
theorem trim_success : Text.trim "success".toList = "success".toList := by decide +kernel

theorem pieces_success (markup : Text) : pieces ("[success]OK:[/success]".toList ++ markup) =
    .tag 0 "success".toList :: .plain "OK:".toList :: .tag 0 "/success".toList ::
      pieces markup := by
  have hclose : tagAt? (bracketed "/success".toList ++ markup) =
      some ("/success".toList, markup) := rfl
  have hopen : ∀ other, tagAt? (bracketed "success".toList ++ other) =
      some ("success".toList, other) := fun other => rfl
  have hplain : pieces ("OK:".toList ++ (bracketed "/success".toList ++ markup)) =
      .plain "OK:".toList :: .tag 0 "/success".toList :: pieces markup := by
    have hend := pieces_tag 0 hclose
    rw [slashes, List.replicate_zero, List.nil_append] at hend
    show pieces ('O' :: 'K' :: ':' :: (bracketed "/success".toList ++ markup)) = _
    rw [pieces_cons rfl, pieces_cons rfl, pieces_cons rfl, hend]
    rfl
  rw [← hplain]
  exact pieces_tag 0 (hopen _)

theorem apply_success (position place : ℕ) :
    Styling.apply ⟨[], []⟩ "success".toList position place =
      .ok ⟨[⟨"success".toList, none, place⟩], []⟩ := by
  have hcut : Text.cut '=' "success".toList = ("success".toList, none) := rfl
  unfold Styling.apply
  rw [hcut]
  split
  · rename_i heq
    cases (Prod.mk.inj heq).1
  · rename_i name value _ heq
    obtain ⟨rfl, rfl⟩ := Prod.mk.inj heq
    rw [styleName_success]
    rfl

theorem apply_closeSuccess (position place start : ℕ) :
    Styling.apply ⟨[⟨"success".toList, none, start⟩], []⟩ "/success".toList position place =
      .ok ⟨[], [⟨start, place, "success".toList⟩]⟩ := by
  have hcut : Text.cut '=' "/success".toList = ('/' :: "success".toList, none) := rfl
  unfold Styling.apply
  rw [hcut]
  split
  · rename_i name value heq
    obtain ⟨hname, -⟩ := Prod.mk.inj heq
    obtain ⟨-, rfl⟩ := List.cons.inj hname
    rw [trim_success, if_neg (by decide), styleName_success]
    rfl
  · rename_i hslash heq
    obtain ⟨rfl, rfl⟩ := Prod.mk.inj heq
    exact (hslash _ rfl).elim

theorem exists_printed_success {markup : Text} (h : ∀ p ∈ pieces markup, p.IsShown)
    (width : ℕ) : ∃ text, printed width ("[success]OK:[/success]".toList ++ markup) = .ok text := by
  obtain ⟨text, stop, hrest⟩ := renderFrom_of_isShown h
    (0 + (Piece.tag 0 "success".toList).size + "OK:".toList.length +
      (Piece.tag 0 "/success".toList).size) (0 + (shownText (unescaped "OK:".toList)).length)
    ⟨[], [⟨0, 0 + (shownText (unescaped "OK:".toList)).length, "success".toList⟩]⟩
  have hrender : render ("[success]OK:[/success]".toList ++ markup) =
      .ok ⟨shownText (unescaped "OK:".toList) ++ text, Styling.finish ⟨[], [⟨0,
        0 + (shownText (unescaped "OK:".toList)).length, "success".toList⟩]⟩ stop⟩ := by
    rw [render, pieces_success, renderFrom_tag (apply_success 0 0), renderFrom]
    rw [renderFrom_tag (apply_closeSuccess _ _ 0), hrest]
    rfl
  refine exists_printed_of_render hrender (isSound_finish stop ?_) width
  rw [List.forall_mem_singleton]
  intro e he
  rw [ofWords_success] at he
  cases he

end Success

end CommentTags.Console
