import CommentTags.Text

namespace CommentTags

inductive Piece where
  | char (c : Char)
  | one
  | run
  | dirs
  | all
  | oneOf (negated : Bool) (body : Text)
deriving DecidableEq, Repr

def specialChars : Text := "()[]\x7b\x7d?*+-|^$\\.&~# \t\n\r\x0b\x0c".toList

namespace Piece

def classChar (c : Char) : Text := if c = '\\' then ['\\', '\\'] else [c]

def regex : Piece → Text
  | .char c => if c ∈ specialChars then ['\\', c] else [c]
  | .one => "[^/]".toList
  | .run => "[^/]*".toList
  | .dirs => "(?:.*/)?".toList
  | .all => ".*".toList
  | .oneOf negated body =>
    '[' :: ((if negated then ['^'] else []) ++ body.flatMap classChar ++ [']'])

end Piece

inductive ClassItem where
  | single (c : Char)
  | range (low high : Char)
deriving DecidableEq, Repr

namespace ClassItem

/-- A hyphen makes a range of its neighbours; at either end of the class it stands for itself. -/
def ofBody : Text → List ClassItem
  | low :: '-' :: high :: s => .range low high :: ofBody s
  | c :: s => .single c :: ofBody s
  | [] => []

def holds (c : Char) : ClassItem → Bool
  | .single d => c == d
  | .range low high => low ≤ c && c ≤ high

end ClassItem

def classAccepts (negated : Bool) (body : Text) (c : Char) : Bool :=
  (ClassItem.ofBody body).any (ClassItem.holds c) != negated

namespace Glob

def negation : Text → Bool × Text
  | '!' :: s => (true, s)
  | '^' :: s => (true, s)
  | s => (false, s)

def firstBracket : Text → Text × Text
  | ']' :: s => ([']'], s)
  | s => ([], s)

def beforeBracket? (s : Text) : Option (Text × Text) :=
  match s.dropWhile (· != ']') with
  | [] => none
  | _ :: rest => some (s.takeWhile (· != ']'), rest)

/-- A class whose opening bracket has been read: what stands in it and what follows it. A closing
bracket right at its start does not end it. -/
def classAt? (s : Text) : Option (Piece × Text) :=
  let marked := negation s
  let opened := firstBracket marked.2
  (beforeBracket? opened.2).map
    (fun (body, rest) => (.oneOf marked.1 (opened.1 ++ body), rest))

theorem length_negation_le (s : Text) : (negation s).2.length ≤ s.length := by
  unfold negation
  split <;> simp

theorem length_firstBracket_le (s : Text) : (firstBracket s).2.length ≤ s.length := by
  unfold firstBracket
  split <;> simp

theorem length_dropWhile_le (p : Char → Bool) (s : Text) : (s.dropWhile p).length ≤ s.length :=
  (List.dropWhile_sublist p).length_le

theorem length_beforeBracket? {s body rest : Text} (h : beforeBracket? s = some (body, rest)) :
    rest.length < s.length := by
  have hl := length_dropWhile_le (· != ']') s
  unfold beforeBracket? at h
  split at h
  · cases h
  · rename_i hd
    cases h
    rw [hd, List.length_cons] at hl
    exact hl

theorem length_classAt? {s rest : Text} {p : Piece} (h : classAt? s = some (p, rest)) :
    rest.length < s.length := by
  obtain ⟨⟨body, r⟩, hb, he⟩ := Option.map_eq_some_iff.1 h
  obtain ⟨-, rfl⟩ := Prod.mk.inj he
  exact Nat.lt_of_lt_of_le (length_beforeBracket? hb)
    (Nat.le_trans (length_firstBracket_le _) (length_negation_le s))

/-- The pieces of a glob; none if a class is not closed. At the start and after a slash the glob
is `fresh`: there two stars cross directories. -/
def pieces? (fresh : Bool) (glob : Text) : Option (List Piece) :=
  match glob with
  | [] => some []
  | '*' :: s =>
    match _hr : s.dropWhile (· == '*') with
    | [] => some [if fresh && s.head? == some '*' then .all else .run]
    | c :: t =>
      if fresh && s.head? == some '*' && c == '/' then (pieces? true t).map (.dirs :: ·)
      else (pieces? false (c :: t)).map (.run :: ·)
  | '?' :: s => (pieces? false s).map (.one :: ·)
  | '[' :: s =>
    match _hc : classAt? s with
    | none => none
    | some (p, rest) => (pieces? false rest).map (p :: ·)
  | '\\' :: c :: s => (pieces? (c == '/') s).map (.char c :: ·)
  | c :: s => (pieces? (c == '/') s).map (.char c :: ·)
termination_by glob.length
decreasing_by
  · have := length_dropWhile_le (· == '*') s
    rw [_hr] at this
    simp only [List.length_cons] at this ⊢
    omega
  · have := length_dropWhile_le (· == '*') s
    rw [_hr] at this
    simp only [List.length_cons] at this ⊢
    omega
  · simp
  · have := length_classAt? _hc
    simp only [List.length_cons]
    omega
  · simp only [List.length_cons]
    omega
  · simp

def suffixes : Text → List Text
  | [] => [[]]
  | c :: s => (c :: s) :: suffixes s

def afterRun : Text → List Text
  | [] => [[]]
  | c :: s => (c :: s) :: (if c = '/' then [] else afterRun s)

def afterSlash : Text → List Text
  | [] => []
  | c :: s => if c = '/' then s :: afterSlash s else afterSlash s

/-- The pieces fit the whole text, or all of it but one line feed at its end. -/
def fits : List Piece → Text → Bool
  | [], s => s.isEmpty || s == ['\n']
  | .char c :: ps, s => s.head? == some c && fits ps s.tail
  | .one :: ps, s => (s.head?.any (· != '/')) && fits ps s.tail
  | .oneOf negated body :: ps, s => (s.head?.any (classAccepts negated body)) && fits ps s.tail
  | .run :: ps, s => (afterRun s).any (fits ps)
  | .dirs :: ps, s => fits ps s || (afterSlash s).any (fits ps)
  | .all :: ps, s => (suffixes s).any (fits ps)

def regex (ps : List Piece) : Text := '^' :: (ps.flatMap Piece.regex ++ ['$'])

end Glob

structure BadRange where
  low : Char
  high : Char
  position : Nat
deriving DecidableEq, Repr

namespace BadRange

def inClass? (position : Nat) : Text → Option BadRange
  | low :: '-' :: high :: s =>
    if high < low then some ⟨low, high, position⟩
    else inClass? (position + (Piece.classChar low).length + 1 + (Piece.classChar high).length) s
  | c :: s => inClass? (position + (Piece.classChar c).length) s
  | [] => none

def first? (position : Nat) : List Piece → Option BadRange
  | [] => none
  | p :: ps =>
    let here := match p with
      | .oneOf negated body => inClass? (position + if negated then 2 else 1) body
      | _ => none
    match here with
    | some r => some r
    | none => first? (position + p.regex.length) ps

end BadRange

end CommentTags
