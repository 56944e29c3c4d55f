import CommentTags.Proofs.Ignore.Pieces
import Mathlib.Logic.Relation

namespace CommentTags

inductive Regex where
  | empty
  | start
  | stop
  | any
  | char (c : Char)
  | oneOf (negated : Bool) (items : List ClassItem)
  | seq (first rest : Regex)
  | maybe (r : Regex)
  | many (r : Regex)
deriving DecidableEq, Repr

namespace Regex

/-- Within a whole text, the expression takes the beginning of the first text and leaves the
second one. The stop is at the end, or before a line feed that ends the text. -/
def Takes (whole : Text) : Regex → Text → Text → Prop
  | .empty, s, t => s = t
  | .start, s, t => s = whole ∧ s = t
  | .stop, s, t => (s = [] ∨ s = ['\n']) ∧ s = t
  | .any, s, t => ∃ c, s = c :: t
  | .char c, s, t => s = c :: t
  | .oneOf negated items, s, t =>
    ∃ c, (items.any (ClassItem.holds c) != negated) = true ∧ s = c :: t
  | .seq first rest, s, t => ∃ u, first.Takes whole s u ∧ rest.Takes whole u t
  | .maybe r, s, t => s = t ∨ r.Takes whole s t
  | .many r, s, t => Relation.ReflTransGen (r.Takes whole) s t

def Finds (r : Regex) (s : Text) : Prop := ∃ t, r.Takes s s t

def classChars? : (first : Bool) → Text → Option (List (Char × Bool) × Text)
  | _, [] => none
  | _, '\\' :: c :: s =>
    if c.isAlphanum then none
    else (classChars? false s).map (fun r => ((c, true) :: r.1, r.2))
  | first, c :: s =>
    if c = ']' ∧ first = false then some ([], s)
    else (classChars? false s).map (fun r => ((c, false) :: r.1, r.2))

def classItems? : List (Char × Bool) → Option (List ClassItem)
  | [] => some []
  | (low, _) :: ('-', false) :: (high, _) :: cs =>
    if high < low then none else (classItems? cs).map (.range low high :: ·)
  | (c, _) :: cs => (classItems? cs).map (.single c :: ·)

def classBody? (negated : Bool) (s : Text) : Option (Regex × Text) :=
  (classChars? true s).bind
    (fun r => (classItems? r.1).map (fun items => (.oneOf negated items, r.2)))

def class? : Text → Option (Regex × Text)
  | '^' :: s => classBody? true s
  | s => classBody? false s

def ofItems (items : List Regex) : Regex := items.foldl (fun rest r => .seq r rest) .empty

def repeated? (mark : Regex → Regex) : List Regex → Option (List Regex)
  | [] => none
  | .start :: _ | .stop :: _ | .maybe _ :: _ | .many _ :: _ => none
  | r :: items => some (mark r :: items)

theorem length_classChars? {first : Bool} {s rest : Text} {cs : List (Char × Bool)}
    (h : classChars? first s = some (cs, rest)) : rest.length < s.length := by
  fun_induction classChars? first s generalizing cs with
  | case1 | case2 => cases h
  | case3 _ _ _ _ ih =>
    obtain ⟨r, hr, he⟩ := Option.map_eq_some_iff.mp h
    cases he
    have hlt := ih hr
    simp only [List.length_cons]
    omega
  | case4 =>
    cases h
    exact Nat.lt_succ_self _
  | case5 _ _ _ _ _ ih =>
    obtain ⟨r, hr, he⟩ := Option.map_eq_some_iff.mp h
    cases he
    exact Nat.lt_succ_of_lt (ih hr)

theorem length_class? {s rest : Text} {r : Regex} (h : class? s = some (r, rest)) :
    rest.length < s.length := by
  have hbody {negated : Bool} {s : Text} (h : classBody? negated s = some (r, rest)) :
      rest.length < s.length := by
    obtain ⟨⟨cs, rest'⟩, hcs, hitems⟩ := Option.bind_eq_some_iff.mp h
    obtain ⟨items, -, he⟩ := Option.map_eq_some_iff.mp hitems
    cases he
    exact length_classChars? hcs
  unfold class? at h
  split at h
  · exact Nat.lt_succ_of_lt (hbody h)
  · exact hbody h

/-- Reads on behind the items of the innermost open group, the last one first, with the items
before each open group at hand. Other groups, counts and alternatives are not read. -/
def read? (outer : List (List Regex)) (items : List Regex) (text : Text) : Option Regex :=
  match text with
  | [] => if outer.isEmpty then some (ofItems items) else none
  | '^' :: s => read? outer (.start :: items) s
  | '$' :: s => read? outer (.stop :: items) s
  | '.' :: s => read? outer (.any :: items) s
  | '*' :: s => (repeated? .many items).bind (fun items => read? outer items s)
  | '?' :: s => (repeated? .maybe items).bind (fun items => read? outer items s)
  | '(' :: '?' :: ':' :: s => read? (items :: outer) [] s
  | ')' :: s =>
    match outer with
    | [] => none
    | before :: outer => read? outer (ofItems items :: before) s
  | '[' :: s =>
    match _hc : class? s with
    | none => none
    | some (r, rest) => read? outer (r :: items) rest
  | '\\' :: c :: s => if c.isAlphanum then none else read? outer (.char c :: items) s
  | c :: s =>
    if c ∈ ['(', '+', '\x7b', '|', '\\'] then none else read? outer (.char c :: items) s
termination_by text.length
decreasing_by
  all_goals simp only [List.length_cons]
  any_goals omega
  have := length_class? _hc
  omega

def ofText? (text : Text) : Option Regex := read? [] [] text

theorem classChars?_classChar {first : Bool} {c : Char} (h : c = ']' → first = true) (s : Text) :
    classChars? first (Piece.classChar c ++ s) =
      (classChars? false s).map (fun r => ((c, c == '\\') :: r.1, r.2)) := by
  unfold Piece.classChar
  split
  · rename_i hc
    subst hc
    rw [List.cons_append, List.cons_append, classChars?, if_neg (by decide)]
    rfl
  · rename_i hc
    rw [List.cons_append, classChars?, if_neg]
    · rw [beq_false_of_ne hc, List.nil_append]
    · rintro ⟨hb, hf⟩
      rw [h hb] at hf
      cases hf
    · intro d t he
      exact absurd he hc

def marked (body : Text) : List (Char × Bool) := body.map (fun c => (c, c == '\\'))

theorem classChars?_body {body : Text} (h : ']' ∉ body) (rest : Text) :
    classChars? false (body.flatMap Piece.classChar ++ ']' :: rest) =
      some (marked body, rest) := by
  induction body with
  | nil => rfl
  | cons c body ih =>
    rw [List.mem_cons, not_or] at h
    have hc : c = ']' → false = true := fun hc => absurd hc.symm h.1
    rw [List.flatMap_cons, List.append_assoc, classChars?_classChar hc, ih h.2]
    rfl

theorem classItems?_marked_cons {c : Char} {rest : Text}
    (hr : ∀ high t, rest ≠ '-' :: high :: t) :
    classItems? (marked (c :: rest)) = (classItems? (marked rest)).map (.single c :: ·) := by
  rw [marked, List.map_cons, classItems?]
  · rfl
  · intro high b cs he
    obtain ⟨d, t, rfl, hd, ht⟩ := List.map_eq_cons_iff.mp he
    obtain ⟨e, t, rfl, -, -⟩ := List.map_eq_cons_iff.mp ht
    exact hr e t (by rw [(Prod.mk.inj hd).1])

theorem classItems?_marked_range (low high : Char) (rest : Text) :
    classItems? (marked (low :: '-' :: high :: rest)) =
      if high < low then none else (classItems? (marked rest)).map (.range low high :: ·) :=
  rfl

theorem classItems?_marked {position : ℕ} {body : Text}
    (h : BadRange.inClass? position body = none) :
    classItems? (marked body) = some (ClassItem.ofBody body) := by
  fun_induction BadRange.inClass? position body with
  | case1 => cases h
  | case2 position low high rest hr ih =>
    rw [classItems?_marked_range, if_neg hr]
    exact congrArg (Option.map _) (ih h)
  | case3 position c rest hr ih =>
    rw [classItems?_marked_cons hr, ih h, ClassItem.ofBody]
    · rfl
    · exact hr
  | case4 => rfl

theorem class?_of_encloses {negated : Bool} {mark body : Text}
    (h : Glob.Encloses negated mark body) (rest : Text) :
    class? ((if negated then ['^'] else []) ++ body.flatMap Piece.classChar ++ ']' :: rest) =
      (classItems? (marked body)).map (fun items => (.oneOf negated items, rest)) := by
  obtain ⟨c, t, rfl⟩ := List.exists_cons_of_ne_nil h.ne_nil
  have hbody (negated : Bool) : classBody? negated
      ((c :: t).flatMap Piece.classChar ++ ']' :: rest) =
        (classItems? (marked (c :: t))).map (fun items => (.oneOf negated items, rest)) := by
    have ht : ']' ∉ t := h.not_mem
    rw [classBody?, List.flatMap_cons, List.append_assoc, classChars?_classChar (fun _ => rfl),
      classChars?_body ht]
    rfl
  cases negated with
  | true => exact hbody true
  | false =>
    have hc : c ≠ '^' := by
      rcases h.marked with ⟨he, -⟩ | ⟨-, -, hhead⟩
      · cases he
      · exact (hhead c rfl).2
    rw [← hbody false, if_neg Bool.false_ne_true, List.nil_append, class?]
    intro s he
    rw [List.flatMap_cons, Piece.classChar] at he
    split at he
    · exact absurd (List.cons.inj he).1 (by decide)
    · exact hc (List.cons.inj he).1

variable {outer : List (List Regex)} {items : List Regex}

theorem isAlphanum_of_mem_specialChars {c : Char} (h : c ∈ specialChars) :
    c.isAlphanum = false := by
  have hall : specialChars.all (fun d => !d.isAlphanum) = true := by decide
  simpa using List.all_eq_true.mp hall c h

theorem read?_plain {c : Char} (h : c ∉ specialChars) (s : Text) :
    read? outer items (c :: s) = read? outer (.char c :: items) s := by
  rw [read?, if_neg]
  · intro hc
    have hsub : ['(', '+', '\x7b', '|', '\\'] ⊆ specialChars := by decide
    exact h (hsub hc)
  -- Each of the other clauses is about a special character.
  all_goals
    intros
    subst c
    exact h (by decide)

theorem read?_escaped {c : Char} (h : c ∈ specialChars) (s : Text) :
    read? outer items ('\\' :: c :: s) = read? outer (.char c :: items) s := by
  rw [read?, isAlphanum_of_mem_specialChars h, if_neg Bool.false_ne_true]

theorem read?_char (c : Char) (s : Text) :
    read? outer items (Piece.regex (.char c) ++ s) = read? outer (.char c :: items) s := by
  have hregex : Piece.regex (.char c) = if c ∈ specialChars then ['\\', c] else [c] := rfl
  by_cases hc : c ∈ specialChars
  · rw [hregex, if_pos hc]
    exact read?_escaped hc s
  · rw [hregex, if_neg hc]
    exact read?_plain hc s

theorem read?_oneOf {negated : Bool} {mark body : Text} (h : Glob.Encloses negated mark body)
    (s : Text) :
    read? outer items (Piece.regex (.oneOf negated body) ++ s) =
      (classItems? (marked body)).bind
        (fun listed => read? outer (.oneOf negated listed :: items) s) := by
  have hregex : Piece.regex (.oneOf negated body) ++ s =
      '[' :: ((if negated then ['^'] else []) ++ body.flatMap Piece.classChar ++ ']' :: s) :=
    congrArg ('[' :: ·) (List.append_assoc _ [']'] s)
  have hclass := class?_of_encloses h s
  rw [hregex, read?]
  cases hitems : classItems? (marked body) with
  | none =>
    rw [hitems] at hclass
    split
    · rfl
    · rename_i he
      rw [he] at hclass
      cases hclass
  | some listed =>
    rw [hitems] at hclass
    split
    · rename_i he
      rw [he] at hclass
      cases hclass
    · rename_i r rest he
      rw [he] at hclass
      cases hclass
      rfl

def Sound (p : Piece) : Prop :=
  ∀ negated body, p = .oneOf negated body →
    (∃ mark, Glob.Encloses negated mark body) ∧
      ∃ position, BadRange.inClass? position body = none

theorem exists_inClass?_of_mem {position : ℕ} {ps : List Piece} {negated : Bool} {body : Text}
    (h : BadRange.first? position ps = none) (hp : .oneOf negated body ∈ ps) :
    ∃ position, BadRange.inClass? position body = none := by
  induction ps generalizing position with
  | nil => cases hp
  | cons p ps ih =>
    unfold BadRange.first? at h
    dsimp only at h
    split at h
    · cases h
    · rename_i hhere
      rcases List.mem_cons.mp hp with rfl | hp
      · exact ⟨_, hhere⟩
      · exact ih h hp

def ofPiece : Piece → Regex
  | .char c => .char c
  | .one => .oneOf true [.single '/']
  | .run => .many (.oneOf true [.single '/'])
  | .dirs => .maybe (ofItems [.char '/', .many .any])
  | .all => .many .any
  | .oneOf negated body => .oneOf negated (ClassItem.ofBody body)

theorem read?_piece {p : Piece} (h : Sound p) (s : Text) :
    read? outer items (p.regex ++ s) = read? outer (ofPiece p :: items) s := by
  have hone (s : Text) : read? outer items (Piece.regex .one ++ s) =
      read? outer (.oneOf true [.single '/'] :: items) s := by
    have hslash : Glob.Encloses true ['!'] ['/'] := ⟨.inl ⟨rfl, .inl rfl⟩, by simp, by simp⟩
    exact read?_oneOf hslash s
  cases p with
  | char c => exact read?_char c s
  | one => exact hone s
  | run =>
    change read? outer items (Piece.regex .one ++ '*' :: s) = _
    rw [hone, read?]
    rfl
  | dirs =>
    change read? outer items ('(' :: '?' :: ':' :: '.' :: '*' :: '/' :: ')' :: '?' :: s) = _
    rw [read?, read?, read?]
    change read? (items :: outer) [.many .any] ('/' :: ')' :: '?' :: s) = _
    rw [read?_plain (by decide), read?, read?]
    rfl
  | all =>
    change read? outer items ('.' :: '*' :: s) = _
    rw [read?, read?]
    rfl
  | oneOf negated body =>
    obtain ⟨⟨mark, henc⟩, position, hr⟩ := h negated body rfl
    rw [read?_oneOf henc, classItems?_marked hr]
    rfl

theorem read?_pieces {ps : List Piece} (h : ∀ p ∈ ps, Sound p) (s : Text) :
    read? outer items (ps.flatMap Piece.regex ++ s) =
      read? outer ((ps.map ofPiece).reverse ++ items) s := by
  induction ps generalizing items with
  | nil => rfl
  | cons p ps ih =>
    rw [List.flatMap_cons, List.append_assoc, read?_piece (h p List.mem_cons_self),
      ih (fun q hq => h q (List.mem_cons_of_mem p hq)), List.map_cons, List.reverse_cons,
      List.append_assoc]
    rfl

def ofPieces (ps : List Piece) : Regex := (ps.map ofPiece).foldr .seq (.seq .stop .empty)

def ofGlob (ps : List Piece) : Regex := .seq .start (ofPieces ps)

theorem ofText?_regex {ps : List Piece} (h : ∀ p ∈ ps, Sound p) :
    ofText? (Glob.regex ps) = some (ofGlob ps) := by
  rw [ofText?, Glob.regex, read?, read?_pieces h, read?, read?]
  have hitems : ofItems (.stop :: ((ps.map ofPiece).reverse ++ [.start])) = ofGlob ps := by
    rw [ofItems, List.foldl_cons, List.foldl_append, List.foldl_reverse]
    rfl
  rw [hitems]
  rfl

section

variable {whole s t : Text}

theorem takes_many_iff {r : Regex} {p : Char → Prop}
    (h : ∀ s t, r.Takes whole s t ↔ ∃ c, p c ∧ s = c :: t) :
    (Regex.many r).Takes whole s t ↔ ∃ u : Text, (∀ c ∈ u, p c) ∧ s = u ++ t := by
  constructor
  · intro hmany
    induction hmany using Relation.ReflTransGen.head_induction_on with
    | refl => exact ⟨[], by simp, rfl⟩
    | head hstep _ ih =>
      obtain ⟨c, hc, rfl⟩ := (h _ _).mp hstep
      obtain ⟨u, hu, rfl⟩ := ih
      exact ⟨c :: u, by simpa using ⟨hc, hu⟩, rfl⟩
  · rintro ⟨u, hu, rfl⟩
    induction u with
    | nil => exact .refl
    | cons c u ih =>
      rw [List.forall_mem_cons] at hu
      exact .head ((h _ _).mpr ⟨c, hu.1, rfl⟩) (ih hu.2)

theorem takes_one_iff :
    (Regex.oneOf true [.single '/']).Takes whole s t ↔ ∃ c, c ≠ '/' ∧ s = c :: t := by
  simp [Takes, ClassItem.holds]

theorem takes_all_iff : (Regex.many .any).Takes whole s t ↔ t <:+ s := by
  rw [takes_many_iff (p := fun _ => True) (fun s t => by simp [Takes])]
  simp [List.IsSuffix, eq_comm]

theorem takes_ofPiece_iff {p : Piece} : (ofPiece p).Takes whole s t ↔ p.Takes s t := by
  cases p with
  | char c => rfl
  | one => exact takes_one_iff
  | run =>
    refine (takes_many_iff (fun _ _ => takes_one_iff)).trans ?_
    simp only [List.forall_mem_ne']
    rfl
  | dirs =>
    change s = t ∨ (∃ u, (Regex.many .any).Takes whole s u ∧ ∃ v, u = '/' :: v ∧ v = t) ↔ _
    simp only [takes_all_iff, Piece.Takes]
    apply or_congr_right
    constructor
    · rintro ⟨_, ⟨dirs, rfl⟩, _, rfl, rfl⟩
      exact ⟨dirs, rfl⟩
    · rintro ⟨dirs, rfl⟩
      exact ⟨'/' :: t, List.suffix_append dirs _, t, rfl, rfl⟩
  | all => exact takes_all_iff
  | oneOf negated body => rfl

theorem exists_takes_ofPieces_iff {ps : List Piece} :
    (∃ t, (ofPieces ps).Takes whole s t) ↔ Glob.fits ps s = true := by
  induction ps generalizing s with
  | nil =>
    rw [Glob.fits, Bool.or_eq_true, List.isEmpty_iff, beq_iff_eq]
    constructor
    · rintro ⟨_, _, ⟨hstop, rfl⟩, rfl⟩
      exact hstop
    · intro hstop
      exact ⟨s, s, ⟨hstop, rfl⟩, rfl⟩
  | cons p ps ih =>
    rw [Glob.fits_cons_iff]
    constructor
    · rintro ⟨t, u, hp, hrest⟩
      exact ⟨u, takes_ofPiece_iff.mp hp, ih.mp ⟨t, hrest⟩⟩
    · rintro ⟨u, hp, hrest⟩
      obtain ⟨t, hrest⟩ := ih.mpr hrest
      exact ⟨t, u, takes_ofPiece_iff.mpr hp, hrest⟩

end

theorem finds_ofGlob_iff {ps : List Piece} {s : Text} :
    (ofGlob ps).Finds s ↔ Glob.fits ps s = true := by
  constructor
  · rintro ⟨t, _, ⟨-, rfl⟩, h⟩
    exact exists_takes_ofPieces_iff.mp ⟨t, h⟩
  · intro h
    obtain ⟨t, h⟩ := exists_takes_ofPieces_iff.mpr h
    exact ⟨t, s, ⟨rfl, rfl⟩, h⟩

end Regex

end CommentTags
