import CommentTags.Console.Cells

namespace CommentTags.Console

structure Cluster where
  text : Text
  cells : Nat
deriving DecidableEq, Repr

namespace Cluster

def add (k : Cluster) (more : Text) (cells : Nat) : Cluster := ⟨k.text ++ more, k.cells + cells⟩

def ofChar (c : Char) : Cluster := ⟨[c], if c = joiner ∨ c = emojiSelector then 0 else charCells c⟩

end Cluster

def clustersAfter (k : Cluster) (last : Option Char) : Text → List Cluster
  | [] => [k]
  | c :: s =>
    if c = joiner then
      match s with
      | [] => [k.add [c] 0]
      | d :: s => clustersAfter (k.add [c, d] 0) last s
    else if c = emojiSelector then
      clustersAfter (k.add [c] (if last.any (within emojiRanges) then 1 else 0)) none s
    else if charCells c = 0 then clustersAfter (k.add [c] 0) last s
    else k :: clustersAfter (.ofChar c) (some c) s

def clusters : Text → List Cluster
  | [] => []
  | c :: s =>
    let first := Cluster.ofChar c
    clustersAfter first (if first.cells = 0 then none else some c) s

def textOf (ks : List Cluster) : Text := ks.flatMap Cluster.text

def cropped (width : Nat) : List Cluster → Text
  | [] => []
  | k :: ks =>
    if width = 0 then []
    else if width < k.cells then [' ']
    else k.text ++ cropped (width - k.cells) ks

def crop (width : Nat) (s : Text) : Text :=
  if cells s ≤ width then s else cropped width (clusters s)

def abbreviate (width : Nat) (s : Text) : Text :=
  if cells s ≤ width then s else crop (width - 1) s ++ ['…']

def fill (width : Nat) : (room : Nat) → List Cluster → List (List Cluster)
  | _, [] => [[]]
  | room, k :: ks =>
    if room < k.cells then
      match fill width (width - k.cells) ks with
      | line :: lines => [] :: (k :: line) :: lines
      | [] => [[], [k]]
    else
      match fill width (room - k.cells) ks with
      | line :: lines => (k :: line) :: lines
      | [] => [[k]]

def chop (width : Nat) (s : Text) : List Text := (fill width width (clusters s)).map textOf

def words (s : Text) : List Text :=
  let blank := s.takeWhile Text.isBlank
  match _h : s.dropWhile Text.isBlank with
  | [] => []
  | c :: rest =>
    let letters := rest.takeWhile (!Text.isBlank ·)
    let behind := rest.dropWhile (!Text.isBlank ·)
    (blank ++ c :: letters ++ behind.takeWhile Text.isBlank) ::
      words (behind.dropWhile Text.isBlank)
termination_by s.length
decreasing_by
  have h₁ := (List.dropWhile_sublist (l := s) Text.isBlank).length_le
  rw [_h, List.length_cons] at h₁
  have h₂ := (List.dropWhile_sublist (l := rest) (!Text.isBlank ·)).length_le
  have h₃ := (List.dropWhile_sublist (l := rest.dropWhile (!Text.isBlank ·)) Text.isBlank).length_le
  omega

inductive Overflow where
  | fold
  | abbreviate
deriving DecidableEq, Repr

def placeWords (overflow : Overflow) (width : Nat) :
    (line : Text) → (used : Nat) → List Text → List Text
  | line, _, [] => [line]
  | line, used, w :: ws =>
    let full := if line.isEmpty then [] else [line]
    let size := cells (Text.dropEndWhile Text.isBlank w)
    if used + size ≤ width then placeWords overflow width (line ++ w) (used + cells w) ws
    else
      let parts := if width < size ∧ overflow = .fold then chop width w else [w]
      let last := parts.getLast?.getD []
      full ++ parts.dropLast ++ placeWords overflow width last (cells last) ws

def dropExcess (width : Nat) (line : Text) : Text :=
  let kept := Text.dropEndWhile Text.isBlank line
  line.take (max kept.length width)

def wrapLine (overflow : Overflow) (width : Nat) (s : Text) : List Text :=
  let lines := if (words s).isEmpty then [s] else placeWords overflow width [] 0 (words s)
  lines.map (dropExcess width)

end CommentTags.Console
