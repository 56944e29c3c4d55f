import CommentTags.Expression.Joined
import CommentTags.Expression.Parse
import CommentTags.Expression.Value

namespace CommentTags.Expression

namespace Source

def settle (g : Source) (opened : List (Char × Nat)) (p : Problem) (s : Progress) : Problem :=
  if !p.isSyntactic || g.problemAtEnd? = some p then p
  else
    match g.ending, opened with
    | .refused q, _ => q
    | .stopped _, (b, line) :: _ =>
      let reached := ((g.tokens[s.seen - 1]?).map (·.line)).getD 0
      if line < reached then g.told (.unclosed b) else p
    | _, _ => p

def unfitting (g : Source) (opened : List (Char × Nat)) (seen : Nat) (s : Progress) : Problem :=
  match (g.tokens[seen - 1]?).map (·.lexeme) with
  | some Lexeme.indent => g.told .indented
  | some Lexeme.dedent => g.told .outdented
  | _ => g.settle opened (g.told .malformed) s

end Source

def read : (fuel : Nat) → (isField : Bool) → Text → Except Problem Tree
  | 0, _, _ => .error .outOfMemory
  | fuel + 1, isField, s =>
    let told := if isField then Problem.inField else id
    let fieldProblem? (e : Text) : Option Problem :=
      match read fuel true ('(' :: (e ++ [')', '\n'])) with
      | .ok _ => none
      | .error p => some p
    let ts := tokens s
    let g : Source :=
      { tokens := ts.tokens.toArray, ending := ts.ending, told,
        join := (FieldReader.mk told fieldProblem?).join }
    let start : Rule := if isField then .field else .whole
    let bound := 1000000 + 100 * ts.tokens.length
    match readRule g bound 0 start 0 {} with
    | .tree t _ _ => .ok t
    | .problem p s => .error (g.settle ts.opened p s)
    | .misfit _ s =>
      match readRule { g with tellsProblems := true } bound 0 start 0 { seen := s.seen } with
      | .problem p u => .error (g.settle ts.opened p u)
      | .tree _ _ u => .error (g.unfitting ts.opened s.seen u)
      | .misfit _ u => .error (g.unfitting ts.opened s.seen u)

/-- Trees that are deeper than this are not kept. -/
def depthLimit : Nat := 2860

def problem? (s : Text) : Option Problem :=
  if s.contains '\x00' then some .zero
  else
    match read (s.length + 1) false (Text.unifyLineEnds s) with
    | .error p => some p
    | .ok t =>
      if depthLimit < t.depth then some .deepTree
      else
        match value t with
        | .ok _ => none
        | .error p => some p

end CommentTags.Expression
