import CommentTags.Text
import Mathlib.Data.List.Basic

namespace CommentTags

inductive LineEnd where
  | lineFeed
  | carriageReturn
  | both
deriving DecidableEq, Repr

namespace LineEnd

def text : LineEnd → Text
  | lineFeed => ['\n']
  | carriageReturn => ['\r']
  | both => ['\r', '\n']

def join (e : LineEnd) (closed : Bool) : List Text → Text
  | [] => []
  | [l] => if closed then l ++ e.text else l
  | l :: l' :: ls => l ++ (e.text ++ join e closed (l' :: ls))

end LineEnd

namespace Text

/-- Lines as they are read, each with a line feed. The last line of an open text has none, and is
none itself if it is empty. -/
def fed (closed : Bool) : List Text → List Text
  | [] => []
  | [l] => if closed then [l ++ ['\n']] else if l.isEmpty then [] else [l]
  | l :: l' :: ls => (l ++ ['\n']) :: fed closed (l' :: ls)

theorem lines_append_cons {s : Text} (h : '\n' ∉ s) (rest : Text) :
    lines (s ++ '\n' :: rest) = (s ++ ['\n']) :: lines rest := by
  induction s with
  | nil => rfl
  | cons c s ih =>
    have hc : c ≠ '\n' := fun e => h (e ▸ List.mem_cons_self)
    rw [List.cons_append, lines, if_neg hc, ih (List.not_mem_of_not_mem_cons h)]
    rfl

theorem lines_of_not_mem {s : Text} (h : '\n' ∉ s) : lines s = if s.isEmpty then [] else [s] := by
  induction s with
  | nil => rfl
  | cons c s ih =>
    have hc : c ≠ '\n' := fun e => h (e ▸ List.mem_cons_self)
    rw [lines, if_neg hc, ih (List.not_mem_of_not_mem_cons h)]
    cases s <;> rfl

theorem unifyLineEnds_append {s : Text} (h : '\r' ∉ s) (rest : Text) :
    unifyLineEnds (s ++ rest) = s ++ unifyLineEnds rest := by
  induction s with
  | nil => rfl
  | cons c s ih =>
    rw [List.mem_cons, not_or] at h
    obtain ⟨hc, hs⟩ := h
    rw [List.cons_append, unifyLineEnds, ih hs, List.cons_append]
    · rintro s rfl
      exact absurd rfl hc
    · rintro rfl
      exact absurd rfl hc

theorem unifyLineEnds_eq_self {s : Text} (h : '\r' ∉ s) : s.unifyLineEnds = s := by
  have happend := unifyLineEnds_append h []
  rwa [List.append_nil, unifyLineEnds, List.append_nil] at happend

theorem unifyLineEnds_ending (e : LineEnd) {rest : Text}
    (h : e = .carriageReturn → rest.head? ≠ some '\n') :
    unifyLineEnds (e.text ++ rest) = '\n' :: unifyLineEnds rest := by
  cases e with
  | lineFeed => rfl
  | both => rfl
  | carriageReturn =>
    have hhead := h rfl
    cases rest with
    | nil => rfl
    | cons c rest =>
      rw [LineEnd.text, List.singleton_append, unifyLineEnds]
      rintro s ⟨⟩
      exact hhead rfl

end Text

namespace LineEnd

variable {e : LineEnd} {closed : Bool} {ls : List Text}

theorem head?_join (hne : e ≠ .lineFeed) (hls : ∀ l ∈ ls, '\n' ∉ l) :
    (e.join closed ls).head? ≠ some '\n' := by
  have hending : e.text.head? ≠ some '\n' := by
    cases e with
    | lineFeed => exact absurd rfl hne
    | carriageReturn => decide
    | both => decide
  have hline : ∀ l ∈ ls, ∀ rest : Text, rest.head? ≠ some '\n' → (l ++ rest).head? ≠ some '\n' := by
    intro l hl rest hrest
    cases l with
    | nil => exact hrest
    | cons c l =>
      rintro ⟨⟩
      exact hls _ hl List.mem_cons_self
  match ls with
  | [] => exact fun h => nomatch h
  | [l] =>
    have hl := hline l List.mem_cons_self
    rw [join]
    split
    · exact hl _ hending
    · have h := hl [] (fun h => nomatch h)
      rwa [List.append_nil] at h
  | l :: l' :: ls =>
    refine hline l List.mem_cons_self _ ?_
    cases e <;> exact hending

theorem unifyLineEnds_join (e : LineEnd) (closed : Bool)
    (hls : ∀ l ∈ ls, '\r' ∉ l ∧ '\n' ∉ l) :
    (e.join closed ls).unifyLineEnds = lineFeed.join closed ls := by
  induction ls with
  | nil => rfl
  | cons l ls ih =>
    rw [List.forall_mem_cons] at hls
    obtain ⟨⟨hl, -⟩, hls⟩ := hls
    cases ls with
    | nil =>
      rw [join, join]
      split
      · rw [Text.unifyLineEnds_append hl]
        cases e <;> rfl
      · exact Text.unifyLineEnds_eq_self hl
    | cons l' ls =>
      have hrest : e = .carriageReturn → (e.join closed (l' :: ls)).head? ≠ some '\n' := by
        rintro rfl
        exact head?_join (by decide) (fun m hm => (hls m hm).2)
      rw [join, Text.unifyLineEnds_append hl, Text.unifyLineEnds_ending e hrest, ih hls]
      rfl

theorem lines_join (closed : Bool) (hls : ∀ l ∈ ls, '\n' ∉ l) :
    (lineFeed.join closed ls).lines = Text.fed closed ls := by
  induction ls with
  | nil => rfl
  | cons l ls ih =>
    rw [List.forall_mem_cons] at hls
    obtain ⟨hl, hls⟩ := hls
    cases ls with
    | nil =>
      rw [join, Text.fed]
      split
      · exact Text.lines_append_cons hl []
      · exact Text.lines_of_not_mem hl
    | cons l' ls =>
      rw [join, Text.fed, ← ih hls]
      exact Text.lines_append_cons hl _

theorem lines_unifyLineEnds_join (e : LineEnd) (closed : Bool)
    (hls : ∀ l ∈ ls, '\r' ∉ l ∧ '\n' ∉ l) :
    (e.join closed ls).unifyLineEnds.lines = Text.fed closed ls := by
  rw [unifyLineEnds_join e closed hls, lines_join closed (fun l hl => (hls l hl).2)]

end LineEnd

end CommentTags
