import CommentTags.Text

namespace CommentTags.Text

def sharedStart : Text → Text → Nat
  | c :: s, d :: t => if c = d then sharedStart s t + 1 else 0
  | _, _ => 0

structure SharedRun where
  first : Nat
  second : Nat
  length : Nat
deriving DecidableEq, Repr

def longestRun (s t : Text) : SharedRun :=
  let runs := (List.range s.length).flatMap (fun i =>
    (List.range t.length).map (fun j => ⟨i, j, sharedStart (s.drop i) (t.drop j)⟩))
  runs.foldl (fun best r => if best.length < r.length then r else best) ⟨0, 0, 0⟩

def sharedLength : (fuel : Nat) → Text → Text → Nat
  | 0, _, _ => 0
  | fuel + 1, s, t =>
    let r := longestRun s t
    if r.length = 0 then 0
    else
      r.length + sharedLength fuel (s.take r.first) (t.take r.second) +
        sharedLength fuel (s.drop (r.first + r.length)) (t.drop (r.second + r.length))

def isSimilar (s t : Text) : Bool :=
  let wanted := 3 * (s.length + t.length)
  wanted ≤ 10 * min s.length t.length && wanted ≤ 10 * sharedLength s.length s t

end CommentTags.Text
