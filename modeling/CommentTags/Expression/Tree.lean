import CommentTags.Expression.Token

namespace CommentTags.Expression

inductive Constant where
  | empty
  | truth (b : Bool)
  | ellipsis
  | number (digits : Text)
  | text
  | bytes
deriving DecidableEq, Repr

inductive Kind where
  | member
  | call
  | arguments
  | keyword (isNamed : Bool)
  | await
  | function
  | conditional
  | assignment
  | yield
  | starred
  | sum
  | sign
  | operation
  | comparison (isMembership : Bool)
  | tuple
  | set
  | dictionary
  | setBuilder
  | dictionaryBuilder
  | generator
  | clause
  | formatted
deriving DecidableEq, Repr

inductive Tree where
  | nothing
  | token (t : Token)
  | list (ts : List Tree)
  | name (s : Text)
  | constant (c : Constant)
  | node (kind : Kind) (children : List Tree)

namespace Kind

def wording : Kind → Text
  | .member => "attribute".toList
  | .call => "function call".toList
  | .await => "await expression".toList
  | .function => "lambda".toList
  | .conditional => "conditional expression".toList
  | .assignment => "named expression".toList
  | .yield => "yield expression".toList
  | .starred => "starred".toList
  | .comparison _ => "comparison".toList
  | .tuple => "tuple".toList
  | .set => "set display".toList
  | .dictionary => "dict literal".toList
  | .setBuilder => "set comprehension".toList
  | .dictionaryBuilder => "dict comprehension".toList
  | .generator => "generator expression".toList
  | .formatted => "f-string expression".toList
  | _ => "expression".toList

end Kind

namespace Tree

def wording : Tree → Text
  | .name _ => "name".toList
  | .constant .empty => "None".toList
  | .constant (.truth b) => if b then "True".toList else "False".toList
  | .constant .ellipsis => "ellipsis".toList
  | .constant _ => "literal".toList
  | .node kind _ => kind.wording
  | _ => []

def expressions (ts : List Tree) : List Tree :=
  ts.flatMap (fun
    | .nothing => []
    | .token _ => []
    | .list ts => ts
    | t => [t])

def elements : Tree → List Tree
  | .list ts => ts
  | .nothing => []
  | t => [t]

def children : Tree → List Tree
  | .node _ ts => ts
  | _ => []

def isName (s : String) : Tree → Bool
  | .name t => t == s.toList
  | _ => false

mutual

def badTarget? : Tree → Option Tree
  | .node .tuple ts => badTargetAmong? ts
  | .node .starred ts => badTargetAmong? ts
  | .node (.comparison true) (t :: _) => badTarget? t
  | .node (.comparison _) _ => none
  | .node .member _ => none
  | .name _ => none
  | t => some t

def badTargetAmong? : List Tree → Option Tree
  | [] => none
  | t :: ts => badTarget? t <|> badTargetAmong? ts

end

mutual

def depth : Tree → Nat
  | .node _ ts => depthAmong ts + 1
  | .list ts => depthAmong ts
  | _ => 1

def depthAmong : List Tree → Nat
  | [] => 0
  | t :: ts => max (depth t) (depthAmong ts)

end

end Tree

end CommentTags.Expression
