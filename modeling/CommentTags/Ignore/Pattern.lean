import CommentTags.Ignore.Glob
import CommentTags.Text.Quoted

namespace CommentTags

structure IgnoreLine where
  raw : Text
  negated : Bool
  dirOnly : Bool
  anchored : Bool
  glob : Text
deriving DecidableEq, Repr

namespace IgnoreLine

/-- Drops spaces from the start of a reversed text, but not one that a backslash precedes. -/
def dropFreeSpaces : Text → Text
  | ' ' :: '\\' :: s => ' ' :: '\\' :: s
  | ' ' :: s => dropFreeSpaces s
  | s => s

def strip (line : Text) : Text := (dropFreeSpaces line.dropLineEnd.reverse).reverse

def splitMark : Text → Bool × Text
  | '!' :: s => (true, s)
  | '\\' :: '!' :: s => (false, '!' :: s)
  | '\\' :: '#' :: s => (false, '#' :: s)
  | s => (false, s)

def ofLine? (line : Text) : Option IgnoreLine :=
  let raw := strip line
  if raw.trim.isEmpty || raw.head? == some '#' then none
  else
    let (negated, body) := splitMark raw
    let open_ := body.dropEndWhile (· == '/')
    let glob := open_.dropWhile (· == '/')
    if glob.isEmpty then none
    else some ⟨raw, negated, body.getLast? == some '/', open_.head? == some '/' || '/' ∈ glob, glob⟩

end IgnoreLine

structure IgnorePattern where
  raw : Text
  pieces : List Piece
  dirOnly : Bool
  negated : Bool
deriving DecidableEq, Repr

inductive GlobProblem where
  | unterminatedClass
  | badRange (r : BadRange) (regex : Text)
deriving DecidableEq, Repr

namespace GlobProblem

def inRegex : GlobProblem → Bool
  | .unterminatedClass => false
  | .badRange .. => true

def message : GlobProblem → Text
  | .unterminatedClass => "unterminated character class".toList
  | .badRange r regex =>
    let before := regex.take r.position
    "bad character range ".toList ++ Piece.classChar r.low ++ '-' :: Piece.classChar r.high ++
      " at position ".toList ++ Text.ofNat r.position ++
      (if '\n' ∈ regex then
        " (line ".toList ++ Text.ofNat (before.count '\n' + 1) ++ ", column ".toList ++
          Text.ofNat ((before.reverse.takeWhile (· != '\n')).length + 1) ++ [')']
      else [])

end GlobProblem

structure IgnoreLineError where
  raw : Text
  line : Option Int
  problem : GlobProblem
deriving DecidableEq, Repr

def IgnoreLineError.message (e : IgnoreLineError) : Text :=
  let place := match e.line with
    | some n => " (line ".toList ++ Text.ofInt n ++ [')']
    | none => []
  "Invalid ignore pattern ".toList ++ Text.quoted e.raw ++ place ++ ": ".toList ++ e.problem.message

namespace IgnorePattern

def compileGlob (l : IgnoreLine) : Except GlobProblem (List Piece) :=
  match Glob.pieces? true l.glob with
  | none => .error .unterminatedClass
  | some ps =>
    let whole := if l.anchored then ps else .dirs :: ps
    match BadRange.first? 1 whole with
    | some r => .error (.badRange r (Glob.regex whole))
    | none => .ok whole

def ofLine (line : Text) (number : Option Int) : Except IgnoreLineError (Option IgnorePattern) :=
  match IgnoreLine.ofLine? line with
  | none => .ok none
  | some l =>
    match compileGlob l with
    | .error problem => .error ⟨l.raw, number, problem⟩
    | .ok pieces => .ok (some ⟨l.raw, pieces, l.dirOnly, l.negated⟩)

def ofLinesFrom : (number : Int) → List Text → Except IgnoreLineError (List IgnorePattern)
  | _, [] => .ok []
  | number, line :: rest =>
    match ofLine line (some number) with
    | .error e => .error e
    | .ok pattern => (ofLinesFrom (number + 1) rest).map (pattern.toList ++ ·)

def ofLines (lines : List Text) : Except IgnoreLineError (List IgnorePattern) := ofLinesFrom 1 lines

def regex (p : IgnorePattern) : Text := Glob.regex p.pieces

def slashed (path : Text) : Text :=
  Text.dropEndWhile (· == '/')
    ((path.map (fun c => if c = '\\' then '/' else c)).dropWhile (· == '/'))

def leadingDirs : List Text → List Text
  | [] => []
  | [_] => []
  | name :: rest => name :: (leadingDirs rest).map (fun d => name ++ '/' :: d)

def selects (p : IgnorePattern) (path : Text) (isDir : Bool) : Bool :=
  let path := slashed path
  !path.isEmpty &&
    ((Glob.fits p.pieces path && (isDir || !p.dirOnly)) ||
      (leadingDirs (path.splitOn '/')).any (Glob.fits p.pieces))

end IgnorePattern

/-- A path is ignored if any pattern selects it; negated patterns never count. -/
def isIgnored (patterns : List IgnorePattern) (path : Text) (isDir : Bool) : Bool :=
  patterns.any (fun p => !p.negated && p.selects path isDir)

theorem isIgnored_iff (patterns : List IgnorePattern) (path : Text) (isDir : Bool) :
    isIgnored patterns path isDir = true ↔
      ∃ p ∈ patterns, p.negated = false ∧ p.selects path isDir = true := by
  simp [isIgnored]

end CommentTags
