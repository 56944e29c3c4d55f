import CommentTags.Path
import Mathlib.Data.List.Basic

namespace CommentTags

namespace Path

def Plain (name : Text) : Prop := name ≠ [] ∧ '/' ∉ name

instance (name : Text) : Decidable (Plain name) := inferInstanceAs (Decidable (_ ∧ _))

def below (dir : Text) (names : List Text) : Text := names.foldl join dir

def joined (names : List Text) : Text := ['/'].intercalate names

def base (dir : Text) : Text :=
  if dir.isEmpty || dir.getLast? = some '/' then dir else dir ++ ['/']

theorem joined_cons_of_ne_nil (name : Text) {names : List Text} (h : names ≠ []) :
    joined (name :: names) = name ++ '/' :: joined names := by
  rw [joined, List.intercalate_cons_of_ne_nil h, List.append_assoc]
  rfl

theorem joined_append {p q : List Text} (hp : p ≠ []) (hq : q ≠ []) :
    joined (p ++ q) = joined p ++ '/' :: joined q := by
  induction p with
  | nil => exact absurd rfl hp
  | cons n ns ih =>
    rw [List.cons_append, joined_cons_of_ne_nil n (List.append_ne_nil_of_right_ne_nil ns hq)]
    by_cases hns : ns = []
    · subst hns
      simp [joined]
    · rw [ih hns, joined_cons_of_ne_nil n hns, List.append_assoc]
      rfl

theorem subset_joined_cons (name : Text) (names : List Text) : name ⊆ joined (name :: names) := by
  by_cases h : names = []
  · subst h
    rw [joined, List.intercalate_singleton]
    exact List.Subset.refl name
  · rw [joined_cons_of_ne_nil name h]
    exact List.subset_append_left name _

theorem joined_subset_append (p q : List Text) : joined p ⊆ joined (p ++ q) := by
  by_cases hp : p = []
  · subst hp
    exact List.nil_subset _
  · by_cases hq : q = []
    · rw [hq, List.append_nil]
      exact List.Subset.refl _
    · rw [joined_append hp hq]
      exact List.subset_append_left _ _

theorem joined_ne_nil {names : List Text} (hne : names ≠ []) (h : ∀ n ∈ names, Plain n) :
    joined names ≠ [] := by
  obtain ⟨n, ns, rfl⟩ := List.exists_cons_of_ne_nil hne
  have hn := (h n List.mem_cons_self).1
  cases ns with
  | nil => simpa [joined, List.intercalate_singleton] using hn
  | cons n' ns => simp [joined_cons_of_ne_nil, hn]

theorem joined_injective {p q : List Text} (hp : ∀ n ∈ p, Plain n) (hq : ∀ n ∈ q, Plain n)
    (h : joined p = joined q) : p = q := by
  by_cases hpe : p = []
  · by_contra hne
    subst hpe
    exact joined_ne_nil (Ne.symm hne) hq h.symm
  · by_cases hqe : q = []
    · subst hqe
      exact absurd h (joined_ne_nil hpe hp)
    · rw [← List.splitOn_intercalate '/' (fun n hn => (hp n hn).2) hpe, ← joined, h, joined,
        List.splitOn_intercalate '/' (fun n hn => (hq n hn).2) hqe]

theorem below_append_singleton (dir : Text) (names : List Text) (name : Text) :
    below dir (names ++ [name]) = join (below dir names) name := by
  simp [below]

theorem join_of_plain (dir : Text) {name : Text} (h : Plain name) :
    join dir name = base dir ++ name := by
  have hhead : name.head? ≠ some '/' := fun hh => h.2 (List.mem_of_head? hh)
  unfold join base
  rw [if_neg hhead]
  split <;> simp

theorem base_append (dir : Text) {name : Text} (h : Plain name) :
    base (base dir ++ name) = base dir ++ name ++ ['/'] := by
  have hlast : (base dir ++ name).getLast? ≠ some '/' := by
    rw [List.getLast?_append_of_ne_nil _ h.1]
    exact fun hl => h.2 (List.mem_of_getLast? hl)
  have hne : (base dir ++ name).isEmpty = false := by simp [h.1]
  conv_lhs => rw [base]
  rw [hne, decide_eq_false hlast]
  rfl

theorem below_of_plain (dir : Text) {names : List Text} (hne : names ≠ [])
    (h : ∀ n ∈ names, Plain n) : below dir names = base dir ++ joined names := by
  induction names generalizing dir with
  | nil => exact absurd rfl hne
  | cons n ns ih =>
    have hn := h n List.mem_cons_self
    change below (join dir n) ns = _
    rw [join_of_plain dir hn]
    by_cases hns : ns = []
    · subst hns
      simp [below, joined, List.intercalate_singleton]
    · rw [ih (base dir ++ n) hns (fun x hx => h x (List.mem_cons_of_mem _ hx)), base_append dir hn,
        joined_cons_of_ne_nil n hns]
      simp

theorem below_nil_of_plain {names : List Text} (h : ∀ n ∈ names, Plain n) :
    below [] names = joined names := by
  by_cases hne : names = []
  · subst hne
    rfl
  · rw [below_of_plain [] hne h]
    rfl

theorem length_le_base (dir : Text) : dir.length ≤ (base dir).length := by
  unfold base
  split <;> simp

theorem below_injective (dir : Text) {p q : List Text} (hp : ∀ n ∈ p, Plain n)
    (hq : ∀ n ∈ q, Plain n) (h : below dir p = below dir q) : p = q := by
  have hlonger : ∀ r : List Text, r ≠ [] → (∀ n ∈ r, Plain n) →
      dir.length < (below dir r).length := by
    intro r hne hr
    have hl := List.length_pos_of_ne_nil (joined_ne_nil hne hr)
    have hb := length_le_base dir
    rw [below_of_plain dir hne hr, List.length_append]
    omega
  by_cases hpe : p = []
  · by_contra hne
    subst hpe
    have hl := hlonger q (Ne.symm hne) hq
    rw [← h] at hl
    exact absurd hl (Nat.lt_irrefl _)
  · by_cases hqe : q = []
    · subst hqe
      have hl := hlonger p hpe hp
      rw [h] at hl
      exact absurd hl (Nat.lt_irrefl _)
    · rw [below_of_plain dir hpe hp, below_of_plain dir hqe hq] at h
      exact joined_injective hp hq (List.append_cancel_left h)

theorem baseName_base_append (dir : Text) {name : Text} (h : '/' ∉ name) :
    baseName (base dir ++ name) = name := by
  have hname : ∀ c ∈ name.reverse, (c != '/') = true := by
    intro c hc
    simpa using fun hs : c = '/' => h (hs ▸ List.mem_reverse.mp hc)
  have hbase : (base dir).reverse.takeWhile (· != '/') = [] := by
    unfold base
    split
    · rename_i hd
      rcases Bool.or_eq_true_iff.mp hd with hd | hd
      · rw [List.isEmpty_iff.mp hd]
        rfl
      · have hl : dir.reverse.head? = some '/' := by simpa using hd
        obtain ⟨s, hs⟩ := List.head?_eq_some_iff.mp hl
        rw [hs]
        rfl
    · simp
  unfold baseName splitLast
  rw [List.reverse_append, List.takeWhile_append_of_pos hname, hbase]
  simp

theorem extension_below (dir : Text) (names : List Text) {name : Text} (h : Plain name) :
    extension (below dir (names ++ [name])) = extension name := by
  have hpath : baseName (below dir (names ++ [name])) = name := by
    rw [below_append_singleton, join_of_plain _ h, baseName_base_append _ h.2]
  have hname : baseName name = name := baseName_base_append [] h.2
  simp only [extension, hpath, hname]

end Path

end CommentTags
