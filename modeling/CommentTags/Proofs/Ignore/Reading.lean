import CommentTags.Proofs.Ignore.Reference

/-!
Globs read from left to right, apart from what their pieces mean. A glob has pieces exactly if no
class in it stays open, and the classes among the pieces are the ones that are read.
-/

namespace CommentTags

def Piece.class? : Piece → Option (Bool × Text)
  | .oneOf negated body => some (negated, body)
  | _ => none

namespace Glob

/-- A glob is read up to what is left of it: the text outside of its classes, in which a backslash
takes the next character with it, and the classes. -/
inductive Reads :
    (glob outside : Text) → (classes : List (Bool × Text)) → (rest : Text) → Prop where
  | stop (rest : Text) : Reads rest [] [] rest
  | char {c : Char} {glob outside rest : Text} {classes : List (Bool × Text)} (hclass : c ≠ '[')
      (hback : c = '\\' → glob = []) (h : Reads glob outside classes rest) :
      Reads (c :: glob) (c :: outside) classes rest
  | escaped {c : Char} {glob outside rest : Text} {classes : List (Bool × Text)}
      (h : Reads glob outside classes rest) :
      Reads ('\\' :: c :: glob) ('\\' :: c :: outside) classes rest
  | oneOf {negated : Bool} {mark body glob outside rest : Text} {classes : List (Bool × Text)}
      (hclass : Encloses negated mark body) (h : Reads glob outside classes rest) :
      Reads ('[' :: (mark ++ (body ++ ']' :: glob))) outside ((negated, body) :: classes) rest

def NeverCloses (s : Text) : Prop :=
  ∃ mark first rest : Text, (mark = [] ∨ mark = ['!'] ∨ mark = ['^']) ∧
    (first = [] ∨ first = [']']) ∧ ']' ∉ rest ∧ s = mark ++ (first ++ rest)

def LeavesOpen (glob : Text) : Prop :=
  ∃ outside classes s, Reads glob outside classes ('[' :: s) ∧ NeverCloses s

theorem beforeBracket?_of_not_mem {s : Text} (h : ']' ∉ s) : beforeBracket? s = none := by
  rw [Option.eq_none_iff_forall_ne_some]
  rintro ⟨body, rest⟩ he
  apply h
  rw [(beforeBracket?_eq_some_iff.mp he).2]
  simp

theorem negation_subset (s : Text) : (negation s).2 ⊆ s := by
  unfold negation
  split <;> simp

theorem classAt?_of_neverCloses {s : Text} (h : NeverCloses s) : classAt? s = none := by
  obtain ⟨mark, first, rest, hmark, hfirst, hrest, rfl⟩ := h
  have hplain {t : Text} (ht : ']' ∉ t) : beforeBracket? (firstBracket t).2 = none := by
    apply beforeBracket?_of_not_mem
    cases t with
    | nil => simp [firstBracket]
    | cons c t =>
      rw [List.mem_cons, not_or] at ht
      rw [firstBracket_cons, if_neg (Ne.symm ht.1)]
      exact List.not_mem_cons_of_ne_of_not_mem ht.1 ht.2
  have hopened : beforeBracket? (firstBracket (first ++ rest)).2 = none := by
    rcases hfirst with rfl | rfl
    · exact hplain hrest
    · exact beforeBracket?_of_not_mem hrest
  rw [classAt?, Option.map_eq_none_iff]
  rcases hmark with rfl | rfl | rfl
  · rcases hfirst with rfl | rfl
    · exact hplain (fun hmem => hrest (negation_subset rest hmem))
    · exact hopened
  · exact hopened
  · exact hopened

theorem neverCloses_of_classAt? {s : Text} (h : classAt? s = none) : NeverCloses s := by
  obtain ⟨mark, hs, hmark⟩ := exists_mark s
  rw [classAt?, Option.map_eq_none_iff] at h
  have hfirst : ∃ first, (first = [] ∨ first = [']']) ∧
      (negation s).2 = first ++ (firstBracket (negation s).2).2 := by
    cases hm : (negation s).2 with
    | nil => exact ⟨[], .inl rfl, rfl⟩
    | cons c t =>
      rw [firstBracket_cons]
      split
      · rename_i hc
        exact ⟨[']'], .inr rfl, by rw [hc]; rfl⟩
      · exact ⟨[], .inl rfl, rfl⟩
  obtain ⟨first, hfirst, hsplit⟩ := hfirst
  refine ⟨mark, first, (firstBracket (negation s).2).2, ?_, hfirst, ?_, ?_⟩
  · rcases hmark with ⟨-, hmark⟩ | ⟨-, hmark, -⟩
    · exact .inr hmark
    · exact .inl hmark
  · intro hmem
    obtain ⟨body, rest, hbody, hrest⟩ := List.eq_append_cons_of_mem hmem
    rw [beforeBracket?_eq_some_iff.mpr ⟨hrest, hbody⟩] at h
    cases h
  · rw [← hsplit]
    exact hs

theorem classAt?_eq_none_iff {s : Text} : classAt? s = none ↔ NeverCloses s :=
  ⟨neverCloses_of_classAt?, classAt?_of_neverCloses⟩

theorem Encloses.unique {negated negated' : Bool} {mark mark' body body' rest rest' : Text}
    (h : Encloses negated mark body) (h' : Encloses negated' mark' body')
    (he : mark ++ (body ++ ']' :: rest) = mark' ++ (body' ++ ']' :: rest')) :
    negated = negated' ∧ body = body' ∧ rest = rest' := by
  have hclass := classAt?_of_encloses h rest
  rw [he, classAt?_of_encloses h' rest'] at hclass
  cases hclass
  exact ⟨rfl, rfl, rfl⟩

theorem Reads.resume {glob outside outside' rest : Text} {classes classes' : List (Bool × Text)}
    (h : Reads glob outside classes []) (h' : Reads glob outside' classes' rest) :
    ∃ more others, classes = classes' ++ others ∧ Reads rest more others [] := by
  induction h' generalizing outside classes with
  | stop rest => exact ⟨outside, classes, rfl, h⟩
  | char hclass hback _ ih =>
    cases h with
    | char _ _ h => exact ih h
    | escaped h => cases hback rfl
    | oneOf _ _ => exact absurd rfl hclass
  | escaped _ ih =>
    cases h with
    | char _ hback _ => cases hback rfl
    | escaped h => exact ih h
  | @oneOf negated mark body glob _ _ _ hclass _ ih =>
    generalize hg : '[' :: (mark ++ (body ++ ']' :: glob)) = g at h
    cases h with
    | stop => cases hg
    | char hne _ _ => exact absurd (List.cons.inj hg).1.symm hne
    | escaped _ => cases hg
    | oneOf hclass' h =>
      obtain ⟨rfl, rfl, rfl⟩ := hclass.unique hclass' (List.cons.inj hg).2
      obtain ⟨more, others, rfl, hrest⟩ := ih h
      exact ⟨more, others, rfl, hrest⟩

theorem not_leavesOpen_of_reads {glob outside : Text} {classes : List (Bool × Text)}
    (h : Reads glob outside classes []) : ¬ LeavesOpen glob := by
  rintro ⟨_, _, s, hopens, hnever⟩
  obtain ⟨more, others, -, hrest⟩ := h.resume hopens
  generalize hg : '[' :: s = g at hrest
  cases hrest with
  | stop => cases hg
  | char hne _ _ => exact hne (List.cons.inj hg).1.symm
  | escaped _ => cases hg
  | oneOf hclass _ =>
    rw [← classAt?_eq_none_iff, (List.cons.inj hg).2, classAt?_of_encloses hclass] at hnever
    cases hnever

theorem reads_stars (n : ℕ) {glob outside rest : Text} {classes : List (Bool × Text)}
    (h : Reads glob outside classes rest) :
    Reads (List.replicate n '*' ++ glob) (List.replicate n '*' ++ outside) classes rest := by
  induction n with
  | zero => exact h
  | succ n ih =>
    rw [List.replicate_succ]
    exact .char (by decide) (by simp) ih

/-- With pieces the glob is read to its end, and its classes are those of the pieces; without
pieces it leaves a class open. -/
structure IsReadAs (glob : Text) (pieces : Option (List Piece)) : Prop where
  complete : ∀ ps, pieces = some ps → ∃ outside, Reads glob outside (ps.filterMap Piece.class?) []
  leavesOpen : pieces = none → LeavesOpen glob

theorem IsReadAs.cons {glob rest : Text} {pieces : Option (List Piece)} {p : Piece}
    (h : IsReadAs rest pieces) (front : Text)
    (hstep : ∀ {outside left : Text} {classes : List (Bool × Text)},
      Reads rest outside classes left →
        Reads glob (front ++ outside) (p.class?.toList ++ classes) left) :
    IsReadAs glob (pieces.map (p :: ·)) := by
  constructor
  · intro ps hps
    obtain ⟨ps, hown, rfl⟩ := Option.map_eq_some_iff.mp hps
    obtain ⟨outside, hreads⟩ := h.complete ps hown
    refine ⟨front ++ outside, ?_⟩
    rw [List.filterMap_cons]
    cases hp : p.class? with
    | none => simpa [hp] using hstep hreads
    | some c => simpa [hp] using hstep hreads
  · intro hnone
    rw [Option.map_eq_none_iff] at hnone
    obtain ⟨outside, classes, s, hreads, hnever⟩ := h.leavesOpen hnone
    exact ⟨_, _, s, hstep hreads, hnever⟩

theorem isReadAs_pieces? (fresh : Bool) (glob : Text) : IsReadAs glob (pieces? fresh glob) := by
  fun_induction pieces? fresh glob with
  | case1 =>
    refine ⟨?_, by simp⟩
    intro ps hps
    cases hps
    exact ⟨[], .stop []⟩
  | case2 fresh s hr =>
    obtain ⟨n, hs, -⟩ := exists_stars s
    rw [hr, List.append_nil] at hs
    refine ⟨?_, by simp⟩
    intro ps hps
    cases hps
    refine ⟨List.replicate (n + 1) '*', ?_⟩
    have hreads := reads_stars (n + 1) (.stop [])
    rw [List.append_nil] at hreads
    rw [hs, ← List.replicate_succ]
    split <;> exact hreads
  | case3 fresh s c t hr hcross ih =>
    obtain ⟨n, hs, -⟩ := exists_stars s
    rw [hr] at hs
    rw [Bool.and_eq_true, beq_iff_eq] at hcross
    obtain ⟨-, rfl⟩ := hcross
    -- Stars that are a component of their own take the slash behind them along.
    rw [hs, ← List.cons_append, ← List.replicate_succ]
    refine ih.cons (List.replicate (n + 1) '*' ++ ['/']) ?_
    intro outside left classes h
    rw [List.append_assoc]
    exact reads_stars (n + 1) (.char (by decide) (by simp) h)
  | case4 fresh s c t hr hcross ih =>
    obtain ⟨n, hs, -⟩ := exists_stars s
    rw [hr] at hs
    rw [hs, ← List.cons_append, ← List.replicate_succ]
    exact ih.cons (List.replicate (n + 1) '*') (fun h => reads_stars (n + 1) h)
  | case5 fresh s ih =>
    exact ih.cons ['?'] (fun h => .char (by decide) (by simp) h)
  | case6 fresh s hc =>
    exact ⟨by simp, fun _ => ⟨[], [], s, .stop _, classAt?_eq_none_iff.mp hc⟩⟩
  | case7 fresh s p rest hc ih =>
    obtain ⟨negated, mark, body, henc, rfl, rfl⟩ := encloses_of_classAt? hc
    exact ih.cons [] (fun h => .oneOf henc h)
  | case8 fresh c s ih => exact ih.cons ['\\', c] (fun h => .escaped h)
  | case9 fresh c s hstar hone hclass hback ih =>
    refine ih.cons [c] (fun h => .char hclass ?_ h)
    intro hc
    cases s with
    | nil => rfl
    | cons d s => exact (hback d s hc rfl).elim

theorem pieces?_eq_none_iff {fresh : Bool} {glob : Text} :
    pieces? fresh glob = none ↔ LeavesOpen glob := by
  constructor
  · exact (isReadAs_pieces? fresh glob).leavesOpen
  · intro hopen
    cases hps : pieces? fresh glob with
    | none => rfl
    | some ps =>
      obtain ⟨outside, hreads⟩ := (isReadAs_pieces? fresh glob).complete ps hps
      exact absurd hopen (not_leavesOpen_of_reads hreads)

end Glob

end CommentTags
