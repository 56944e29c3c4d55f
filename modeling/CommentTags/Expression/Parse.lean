import Std.Data.HashMap
import CommentTags.Expression.Rules

/-!
Reading tokens by the rules. Rules can be read without or with the branches that are guarded; the
results of some rules are kept for each position, and are not read again, not even with the other
branches.
-/

namespace CommentTags.Expression

structure Source where
  tokens : Array Token
  ending : Ending
  told : Problem → Problem
  join : List (Text × Text) → Except Problem Tree
  tellsProblems : Bool := false

structure Progress where
  seen : Nat := 0
  kept : Std.HashMap Nat (Option Tree × Nat) := ∅

inductive Reply where
  | tree (t : Tree) (next : Nat) (s : Progress)
  | misfit (isFinal : Bool) (s : Progress)
  | problem (p : Problem) (s : Progress)

namespace Source

def depthAt (g : Source) (position : Nat) : Nat :=
  ((g.tokens[position]?).map (·.depth)).getD 0

def problemAtEnd? (g : Source) : Option Problem :=
  match g.ending with
  | .complete => none
  | .refused p => some p
  | .stopped p => some (g.told p)

def look (g : Source) (position : Nat) (s : Progress) (k : Option Token → Progress → Reply) :
    Reply :=
  match g.tokens[position]? with
  | some t => k (some t) { s with seen := max s.seen (position + 1) }
  | none =>
    match g.problemAtEnd? with
    | some p => .problem p s
    | none => k none s

end Source

def softWords : List Text := ["_", "case", "match"].map String.toList

def decimalDigits (s : Text) : Nat :=
  if s.all (fun c => Text.isDigit c || c == '_') then (s.filter (· != '_')).length else 0

def Symbol.fits? (symbol : Symbol) (t : Token) : Option Tree :=
  match symbol, t.lexeme with
  | .mark s, .mark u => if s = u then some (.token t) else none
  | .name, .name s => some (.name s)
  | .number, .number s => some (.constant (.number s))
  | .text, .text _ _ => some (.token t)
  | .softWord, .name s => if softWords.any (s.isPrefixOf ·) then some (.name s) else none
  | .lineEnd, .lineEnd => some (.token t)
  | .finish, .finish => some (.token t)
  | _, _ => none

def digitsProblem? : Tree → Option Problem
  | .constant (.number s) =>
    if Text.digitLimit < decimalDigits s then some (.tooManyDigits (decimalDigits s)) else none
  | _ => none

def levelLimit : Nat := 6000

mutual

def readRule (g : Source) : (fuel level : Nat) → Rule → (position : Nat) → Progress → Reply
  | 0, _, _, _, s => .problem .outOfMemory s
  | fuel + 1, level, r, position, s =>
    if levelLimit ≤ level then .problem .outOfMemory s
    else if r.isKept || r.isLeftRecursive then
      g.look position s fun _ s =>
        let key := position * 256 + r.ctorIdx
        match s.kept[key]? with
        | some (some t, next) => .tree t next s
        | some (none, _) => .misfit false s
        | none =>
          if r.isLeftRecursive then growRule g fuel (level + 1) r position none position s
          else
            match readBranches g fuel (level + 1) r.branches position s with
            | .tree t next s => .tree t next { s with kept := s.kept.insert key (some t, next) }
            | .misfit _ s => .misfit false { s with kept := s.kept.insert key (none, position) }
            | .problem p s => .problem p s
    else
      let g := if r = .plainExpression then { g with tellsProblems := false } else g
      match readBranches g fuel (level + 1) r.branches position s with
      | .misfit _ s => .misfit false s
      | reply => reply

def growRule (g : Source) : (fuel level : Nat) → Rule → (position : Nat) → Option Tree →
    (reached : Nat) → Progress → Reply
  | 0, _, _, _, _, _, s => .problem .outOfMemory s
  | fuel + 1, level, r, position, best, reached, s =>
    if levelLimit ≤ level then .problem .outOfMemory s
    else
      let s := { s with kept := s.kept.insert (position * 256 + r.ctorIdx) (best, reached) }
      let finish (s : Progress) : Reply :=
        match best with
        | some t => .tree t reached s
        | none => .misfit false s
      match readBranches g fuel (level + 1) r.branches position s with
      | .tree t next s =>
        if reached < next then growRule g fuel level r position (some t) next s else finish s
      | .misfit _ s => finish s
      | .problem p s => .problem p s

def readBranches (g : Source) : (fuel level : Nat) → List Branch → (position : Nat) → Progress →
    Reply
  | 0, _, _, _, s => .problem .outOfMemory s
  | _ + 1, _, [], _, s => .misfit false s
  | fuel + 1, level, b :: bs, position, s =>
    if b.isGuarded && !g.tellsProblems then readBranches g fuel level bs position s
    else
      match readItems g fuel level b.items [] false position s with
      | .misfit isFinal s =>
        if isFinal then .misfit false s else readBranches g fuel level bs position s
      | .tree t next s =>
        match b.build ⟨g.depthAt (next - 1), g.told, g.join⟩ t.elements with
        | .tree t => .tree t next s
        | .refused => .misfit false s
        | .problem p => .problem p s
      | .problem p s => .problem p s

def readItems (g : Source) : (fuel level : Nat) → List Item → (given : List Tree) →
    (isFinal : Bool) → (position : Nat) → Progress → Reply
  | 0, _, _, _, _, _, s => .problem .outOfMemory s
  | _ + 1, _, [], given, _, position, s => .tree (.list given.reverse) position s
  | fuel + 1, level, item :: items, given, isFinal, position, s =>
    match item with
    | .one symbol =>
      match readSymbol g fuel level symbol position s with
      | .tree t next s => readItems g fuel level items (t :: given) isFinal next s
      | .misfit _ s => .misfit isFinal s
      | .problem p s => .problem p s
    | .maybe symbol =>
      match readSymbol g fuel level symbol position s with
      | .tree t next s => readItems g fuel level items (t :: given) isFinal next s
      | .misfit _ s => readItems g fuel level items (.nothing :: given) isFinal position s
      | .problem p s => .problem p s
    | .many symbol =>
      match readMany g fuel (level + 1) symbol false [] position s with
      | .tree t next s => readItems g fuel level items (t :: given) isFinal next s
      | reply => reply
    | .some symbol =>
      match readMany g fuel (level + 1) symbol false [] position s with
      | .tree (.list (t :: ts)) next s =>
        readItems g fuel level items (.list (t :: ts) :: given) isFinal next s
      | .tree _ _ s => .misfit isFinal s
      | reply => reply
    | .separated symbol =>
      match readSymbol g fuel (level + 1) symbol position s with
      | .tree t next s =>
        match readMany g fuel (level + 2) symbol true [] next s with
        | .tree (.list ts) next s =>
          readItems g fuel level items (.list (t :: ts) :: given) isFinal next s
        | .tree _ _ s => .misfit isFinal s
        | reply => reply
      | .misfit _ s => .misfit isFinal s
      | .problem p s => .problem p s
    | .ahead symbol =>
      match readSymbol g fuel level symbol position s with
      | .tree _ _ s => readItems g fuel level items (.nothing :: given) isFinal position s
      | .misfit _ s => .misfit isFinal s
      | .problem p s => .problem p s
    | .notAhead symbol =>
      match readSymbol g fuel level symbol position s with
      | .tree _ _ s => .misfit isFinal s
      | .misfit _ s => readItems g fuel level items (.nothing :: given) isFinal position s
      | .problem p s => .problem p s
    | .cut => readItems g fuel level items (.nothing :: given) true position s

def readMany (g : Source) : (fuel level : Nat) → Symbol → (isSeparated : Bool) →
    (given : List Tree) → (position : Nat) → Progress → Reply
  | 0, _, _, _, _, _, s => .problem .outOfMemory s
  | fuel + 1, level, symbol, isSeparated, given, position, s =>
    let items := if isSeparated then [.one (.mark [',']), .one symbol] else [.one symbol]
    if levelLimit ≤ level then .problem .outOfMemory s
    else
      match readItems g fuel level items [] false position s with
      | .tree t next s =>
        readMany g fuel level symbol isSeparated ((t.elements.getLast?).getD .nothing :: given)
          next s
      | .misfit _ s => .tree (.list given.reverse) position s
      | .problem p s => .problem p s

def readSymbol (g : Source) : (fuel level : Nat) → Symbol → (position : Nat) → Progress → Reply
  | 0, _, _, _, s => .problem .outOfMemory s
  | fuel + 1, level, symbol, position, s =>
    match symbol with
    | .rule r => readRule g fuel level r position s
    | _ =>
      g.look position s fun t s =>
        match t.bind symbol.fits? with
        | none => .misfit false s
        | some t =>
          match digitsProblem? t with
          | some p => .problem (g.told p) s
          | none => .tree t (position + 1) s

end

end CommentTags.Expression
