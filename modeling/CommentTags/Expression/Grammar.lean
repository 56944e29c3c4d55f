import CommentTags.Expression.Tree

/-!
What rules of a grammar are made of. The alternatives of a rule are tried in their order, and the
first one whose items all fit is taken; what it builds is a tree, or a problem, or nothing.
-/

namespace CommentTags.Expression

/-- The rules of the grammar of expressions. Those whose names start with `bad` fit what is no
expression, and tell what is wrong with it. -/
inductive Rule where
  | whole
  | field
  | expressions
  | furtherExpression
  | expression
  | plainExpression
  | yield
  | starExpressions
  | furtherStarExpression
  | starExpression
  | elements
  | element
  | walrus
  | namedExpression
  | disjunction
  | furtherConjunction
  | conjunction
  | furtherInversion
  | inversion
  | comparison
  | comparisonPair
  | bitOr
  | bitXor
  | bitAnd
  | shift
  | sum
  | term
  | factor
  | power
  | awaited
  | primary
  | atom
  | parenthesized
  | braced
  | strings
  | group
  | groupBody
  | tuple
  | tupleBody
  | set
  | dictionary
  | entries
  | entry
  | pair
  | clauses
  | clause
  | clauseFilter
  | setBuilder
  | dictionaryBuilder
  | generator
  | generatorElement
  | arguments
  | argumentList
  | argument
  | positional
  | furtherKeywords
  | keywords
  | starredArgument
  | keywordOrStarred
  | keywordOrMapping
  | targets
  | furtherTarget
  | targetSequence
  | target
  | unstarredTarget
  | targetWithAtom
  | targetAtom
  | targetPrimary
  | targetGoesOn
  | function
  | parameters
  | parameterList
  | slashPlain
  | slashDefault
  | starParameters
  | mappingParameter
  | plainParameter
  | defaultParameter
  | anyParameter
  | parameter
  | parameterDefault
  | badArguments
  | badArgumentsRest
  | badKeyword
  | constantWord
  | nameEquals
  | markedName
  | badExpression
  | elseOrColon
  | badCall
  | badNamedExpression
  | bareContainer
  | equalsOrWalrus
  | badBuilder
  | anyOpening
  | badDictionaryBuilder
  | badParameters
  | badParametersDefault
  | slashParameters
  | commaOrPlain
  | badStarParameters
  | colonOrComma
  | colonOrMapping
  | badMappingParameter
  | starOrSlash
  | badDefault
  | closingOrComma
  | badTarget
  | badGroup
  | badEntries
  | badPair
  | braceOrComma
deriving DecidableEq, Repr

inductive Symbol where
  | mark (s : Text)
  | name
  | number
  | text
  | softWord
  | lineEnd
  | finish
  | rule (r : Rule)
deriving DecidableEq, Repr

inductive Item where
  | one (s : Symbol)
  | maybe (s : Symbol)
  | many (s : Symbol)
  | some (s : Symbol)
  | separated (s : Symbol)
  | ahead (s : Symbol)
  | notAhead (s : Symbol)
  | cut
deriving DecidableEq, Repr

structure Context where
  depth : Nat
  told : Problem → Problem
  join : List (Text × Text) → Except Problem Tree

inductive Outcome where
  | tree (t : Tree)
  | refused
  | problem (p : Problem)

structure Branch where
  items : List Item
  build : Context → List Tree → Outcome
  isGuarded : Bool := false

namespace Branch

def same (r : Rule) : Branch := ⟨[.one (.rule r)], fun _ ts => .tree (ts.headD .nothing), false⟩

def guarded (r : Rule) : Branch := { same r with isGuarded := true }

def pick (n : Nat) (items : List Item) : Branch :=
  ⟨items, fun _ ts => .tree (ts.getD n .nothing), false⟩

def node (kind : Kind) (items : List Item) : Branch :=
  ⟨items, fun _ ts => .tree (.node kind (Tree.expressions ts)), false⟩

def all (items : List Item) : Branch := ⟨items, fun _ ts => .tree (.list ts), false⟩

def constant (c : Constant) (items : List Item) : Branch :=
  ⟨items, fun _ _ => .tree (.constant c), false⟩

def problem (p : Problem) (items : List Item) : Branch :=
  ⟨items, fun c _ => .problem (c.told p), false⟩

def problemOf (n : Nat) (p : Tree → Problem) (items : List Item) : Branch :=
  ⟨items, fun c ts => .problem (c.told (p (ts.getD n .nothing))), false⟩

end Branch

end CommentTags.Expression
