import CommentTags.Expression.Grammar

namespace CommentTags.Expression

open Branch

def mark (s : String) : Item := .one (.mark s.toList)
def maybeMark (s : String) : Item := .maybe (.mark s.toList)
def rule (r : Rule) : Item := .one (.rule r)
def maybeRule (r : Rule) : Item := .maybe (.rule r)
def manyRule (r : Rule) : Item := .many (.rule r)
def someRule (r : Rule) : Item := .some (.rule r)
def separatedRule (r : Rule) : Item := .separated (.rule r)
def aheadMark (s : String) : Item := .ahead (.mark s.toList)
def notAheadMark (s : String) : Item := .notAhead (.mark s.toList)

def binary (kind : Kind) (r next : Rule) (op : String) : Branch :=
  node kind [rule r, mark op, rule next]

def comparing : Context → List Tree → Outcome
  | _, [t, .list (.node kind us :: pairs)] => .tree (.node kind (t :: us ++ pairs))
  | _, ts => .tree (.node (.comparison false) ts)

def calling (function arguments : Tree) : Tree :=
  match arguments with
  | .node .arguments ts => .node .call (function :: ts)
  | _ => .node .call [function]

def isKeyword : Tree → Bool
  | .node (.keyword _) _ => true
  | _ => false

def asArguments : Context → List Tree → Outcome := fun _ ts =>
  let ts := Tree.expressions ts
  .tree (.node .arguments (ts.filter (!isKeyword ·) ++ ts.filter isKeyword))

def behindArguments (arguments : Tree) : Problem :=
  if arguments.children.any (fun
    | .node (.keyword isNamed) _ => !isNamed
    | _ => false) then .positionalBehindMapping
  else .positionalBehindKeyword

def generatorBehind : Context → List Tree → Outcome := fun c ts =>
  let arguments := (ts.headD .nothing).children
  if (arguments.filter (!isKeyword ·)).length ≤ 1 then .refused
  else .problem (c.told .bareGenerator)

def isStatementName (t : Tree) : Bool := t.isName "print" || t.isName "exec"

def behindExpression : Context → List Tree → Outcome := fun c ts =>
  if isStatementName (ts.getD 1 .nothing) || c.depth = 0 then .refused
  else .problem (c.told .commaMissing)

def behindName : Context → List Tree → Outcome := fun c ts =>
  match ts.headD .nothing with
  | .name s =>
    if isStatementName (.name s) then .problem (c.told (.callMissing s)) else .refused
  | _ => .refused

def badLoopTarget : Context → List Tree → Outcome := fun c ts =>
  match (ts.getD 2 .nothing).badTarget? with
  | some t => .problem (c.told (.badTarget t.wording))
  | none => .refused

def entryOf (key value : Nat) : Context → List Tree → Outcome := fun _ ts =>
  .tree (.list [ts.getD key .nothing, ts.getD value .nothing])

def asDictionary : Context → List Tree → Outcome := fun _ ts =>
  .tree (.node .dictionary ((ts.getD 1 .nothing).elements.flatMap Tree.elements))

def texts (ts : List Tree) : List (Text × Text) :=
  (ts.flatMap Tree.elements).filterMap (fun
    | .token ⟨.text letters body, _, _⟩ => some (letters, body)
    | _ => none)

def joined : Context → List Tree → Outcome := fun c ts =>
  match c.join (texts ts) with
  | .ok t => .tree t
  | .error p => .problem p

def wordOf : Tree → Text
  | .token ⟨.mark s, _, _⟩ => s
  | _ => []

namespace Rule

def branches : Rule → List Branch
  | .whole => [pick 0 [rule .expressions, .many .lineEnd, .one .finish]]
  | .field => [same .starExpressions]
  | .expressions =>
    [node .tuple [rule .expression, someRule .furtherExpression, maybeMark ","],
      node .tuple [rule .expression, mark ","],
      same .expression]
  | .furtherExpression => [pick 1 [mark ",", rule .expression]]
  | .expression =>
    [guarded .badExpression,
      guarded .badCall,
      node .conditional
        [rule .disjunction, mark "if", rule .disjunction, mark "else", rule .expression],
      same .disjunction,
      same .function]
  | .plainExpression =>
    [node .conditional
        [rule .disjunction, mark "if", rule .disjunction, mark "else", rule .expression],
      same .disjunction,
      same .function]
  | .yield =>
    [node .yield [mark "yield", mark "from", rule .expression],
      node .yield [mark "yield", maybeRule .starExpressions]]
  | .starExpressions =>
    [node .tuple [rule .starExpression, someRule .furtherStarExpression, maybeMark ","],
      node .tuple [rule .starExpression, mark ","],
      same .starExpression]
  | .furtherStarExpression => [pick 1 [mark ",", rule .starExpression]]
  | .starExpression => [node .starred [mark "*", rule .bitOr], same .expression]
  | .elements => [pick 0 [separatedRule .element, maybeMark ","]]
  | .element => [node .starred [mark "*", rule .bitOr], same .namedExpression]
  | .walrus => [node .assignment [.one .name, mark ":=", .cut, rule .expression]]
  | .namedExpression =>
    [same .walrus, guarded .badNamedExpression, pick 0 [rule .expression, notAheadMark ":="]]
  | .disjunction =>
    [node .operation [rule .conjunction, someRule .furtherConjunction], same .conjunction]
  | .furtherConjunction => [pick 1 [mark "or", rule .conjunction]]
  | .conjunction =>
    [node .operation [rule .inversion, someRule .furtherInversion], same .inversion]
  | .furtherInversion => [pick 1 [mark "and", rule .inversion]]
  | .inversion => [node .operation [mark "not", rule .inversion], same .comparison]
  | .comparison => [⟨[rule .bitOr, someRule .comparisonPair], comparing, false⟩, same .bitOr]
  | .comparisonPair =>
    ["==", "!=", "<=", "<", ">=", ">"].map
        (fun op => node (.comparison false) [mark op, rule .bitOr]) ++
      [node (.comparison false) [mark "not", mark "in", rule .bitOr],
        node (.comparison true) [mark "in", rule .bitOr],
        node (.comparison false) [mark "is", mark "not", rule .bitOr],
        node (.comparison false) [mark "is", rule .bitOr]]
  | .bitOr => [binary .operation .bitOr .bitXor "|", same .bitXor]
  | .bitXor => [binary .operation .bitXor .bitAnd "^", same .bitAnd]
  | .bitAnd => [binary .operation .bitAnd .shift "&", same .shift]
  | .shift =>
    [binary .operation .shift .sum "<<", binary .operation .shift .sum ">>", same .sum]
  | .sum => [binary .sum .sum .term "+", binary .sum .sum .term "-", same .term]
  | .term =>
    ["*", "/", "//", "%", "@"].map (binary .operation .term .factor) ++ [same .factor]
  | .factor =>
    [node .sign [mark "+", rule .factor],
      node .sign [mark "-", rule .factor],
      node .operation [mark "~", rule .factor],
      same .power]
  | .power => [binary .operation .awaited .factor "**", same .awaited]
  | .awaited => [node .await [mark "await", rule .primary], same .primary]
  | .primary =>
    [⟨[rule .primary, mark ".", .one .name],
        fun _ ts => .tree (.node .member [ts.headD .nothing]), false⟩,
      node .call [rule .primary, rule .generator],
      ⟨[rule .primary, mark "(", maybeRule .arguments, mark ")"],
        fun _ ts => .tree (calling (ts.headD .nothing) (ts.getD 2 .nothing)), false⟩,
      same .atom]
  | .atom =>
    [pick 0 [.one .name],
      constant (.truth true) [mark "True"],
      constant (.truth false) [mark "False"],
      constant .empty [mark "None"],
      pick 1 [.ahead .text, rule .strings],
      pick 0 [.one .number],
      pick 1 [aheadMark "(", rule .parenthesized],
      pick 1 [aheadMark "\x7b", rule .braced],
      constant .ellipsis [mark "..."]]
  | .parenthesized => [same .tuple, same .group, same .generator]
  | .braced => [same .dictionary, same .set, same .dictionaryBuilder, same .setBuilder]
  | .strings => [⟨[.some .text], joined, false⟩]
  | .group => [pick 1 [mark "(", rule .groupBody, mark ")"], guarded .badGroup]
  | .groupBody => [same .yield, same .namedExpression]
  | .tuple => [⟨[mark "(", maybeRule .tupleBody, mark ")"],
      fun _ ts => .tree (.node .tuple (ts.getD 1 .nothing).elements), false⟩]
  | .tupleBody => [⟨[rule .element, mark ",", maybeRule .elements],
      fun _ ts => .tree (.list (Tree.expressions ts)), false⟩]
  | .set => [node .set [mark "\x7b", rule .elements, mark "\x7d"]]
  | .dictionary =>
    [⟨[mark "\x7b", maybeRule .entries, mark "\x7d"], asDictionary, false⟩,
      all [mark "\x7b", rule .badEntries, mark "\x7d"]]
  | .entries => [pick 0 [separatedRule .entry, maybeMark ","]]
  | .entry => [⟨[mark "**", rule .bitOr], entryOf 2 1, false⟩, same .pair]
  | .pair => [⟨[rule .expression, mark ":", rule .expression], entryOf 0 2, false⟩]
  | .clauses => [pick 0 [someRule .clause]]
  | .clause =>
    [node .clause [mark "async", mark "for", rule .targets, mark "in", .cut, rule .disjunction,
        manyRule .clauseFilter],
      node .clause [mark "for", rule .targets, mark "in", .cut, rule .disjunction,
        manyRule .clauseFilter],
      guarded .badTarget]
  | .clauseFilter => [pick 1 [mark "if", rule .disjunction]]
  | .setBuilder =>
    [node .setBuilder [mark "\x7b", rule .namedExpression, rule .clauses, mark "\x7d"],
      guarded .badBuilder]
  | .dictionaryBuilder =>
    [node .dictionaryBuilder [mark "\x7b", rule .pair, rule .clauses, mark "\x7d"],
      guarded .badDictionaryBuilder]
  | .generator =>
    [node .generator [mark "(", rule .generatorElement, rule .clauses, mark ")"],
      guarded .badBuilder]
  | .generatorElement => [same .walrus, pick 0 [rule .expression, notAheadMark ":="]]
  | .arguments =>
    [pick 0 [rule .argumentList, maybeMark ",", aheadMark ")"], guarded .badArguments]
  | .argumentList =>
    [⟨[separatedRule .argument, maybeRule .furtherKeywords], asArguments, false⟩,
      ⟨[rule .keywords], asArguments, false⟩]
  | .argument => [same .starredArgument, pick 0 [rule .positional, notAheadMark "="]]
  | .positional => [same .walrus, pick 0 [rule .expression, notAheadMark ":="]]
  | .furtherKeywords => [pick 1 [mark ",", rule .keywords]]
  | .keywords =>
    [⟨[separatedRule .keywordOrStarred, mark ",", separatedRule .keywordOrMapping],
        fun _ ts => .tree (.list (Tree.expressions ts)), false⟩,
      pick 0 [separatedRule .keywordOrStarred],
      pick 0 [separatedRule .keywordOrMapping]]
  | .starredArgument => [node .starred [mark "*", rule .expression]]
  | .keywordOrStarred =>
    [guarded .badKeyword,
      node (.keyword true) [.one .name, mark "=", rule .expression],
      same .starredArgument]
  | .keywordOrMapping =>
    [guarded .badKeyword,
      node (.keyword true) [.one .name, mark "=", rule .expression],
      node (.keyword false) [mark "**", rule .expression]]
  | .targets =>
    [pick 0 [rule .target, notAheadMark ","],
      node .tuple [rule .target, manyRule .furtherTarget, maybeMark ","]]
  | .furtherTarget => [pick 1 [mark ",", rule .target]]
  | .targetSequence =>
    [node .tuple [rule .target, someRule .furtherTarget, maybeMark ","],
      node .tuple [rule .target, mark ","]]
  | .target => [node .starred [mark "*", rule .unstarredTarget], same .targetWithAtom]
  | .unstarredTarget => [pick 1 [notAheadMark "*", rule .target]]
  | .targetWithAtom =>
    [node .member [rule .targetPrimary, mark ".", .one .name,
        .notAhead (.rule .targetGoesOn)],
      same .targetAtom]
  | .targetAtom =>
    [pick 0 [.one .name],
      pick 1 [mark "(", rule .targetWithAtom, mark ")"],
      node .tuple [mark "(", maybeRule .targetSequence, mark ")"]]
  | .targetPrimary =>
    [node .member [rule .targetPrimary, mark ".", .one .name, .ahead (.rule .targetGoesOn)],
      node .call [rule .targetPrimary, rule .generator, .ahead (.rule .targetGoesOn)],
      node .call [rule .targetPrimary, mark "(", maybeRule .arguments, mark ")",
        .ahead (.rule .targetGoesOn)],
      pick 0 [rule .atom, .ahead (.rule .targetGoesOn)]]
  | .targetGoesOn => [all [mark "("], all [mark "["], all [mark "."]]
  | .function =>
    [node .function [mark "lambda", maybeRule .parameters, mark ":", rule .expression]]
  | .parameters => [guarded .badParameters, same .parameterList]
  | .parameterList =>
    [all [rule .slashPlain, manyRule .plainParameter, manyRule .defaultParameter,
        maybeRule .starParameters],
      all [rule .slashDefault, manyRule .defaultParameter, maybeRule .starParameters],
      all [someRule .plainParameter, manyRule .defaultParameter, maybeRule .starParameters],
      all [someRule .defaultParameter, maybeRule .starParameters],
      same .starParameters]
  | .slashPlain =>
    [all [someRule .plainParameter, mark "/", mark ","],
      all [someRule .plainParameter, mark "/", aheadMark ":"]]
  | .slashDefault =>
    [all [manyRule .plainParameter, someRule .defaultParameter, mark "/", mark ","],
      all [manyRule .plainParameter, someRule .defaultParameter, mark "/", aheadMark ":"]]
  | .starParameters =>
    [guarded .badStarParameters,
      all [mark "*", rule .plainParameter, manyRule .anyParameter, maybeRule .mappingParameter],
      all [mark "*", mark ",", someRule .anyParameter, maybeRule .mappingParameter],
      same .mappingParameter]
  | .mappingParameter => [guarded .badMappingParameter, all [mark "**", rule .plainParameter]]
  | .plainParameter => [all [rule .parameter, mark ","], all [rule .parameter, aheadMark ":"]]
  | .defaultParameter =>
    [all [rule .parameter, rule .parameterDefault, mark ","],
      all [rule .parameter, rule .parameterDefault, aheadMark ":"]]
  | .anyParameter =>
    [all [rule .parameter, maybeRule .parameterDefault, mark ","],
      all [rule .parameter, maybeRule .parameterDefault, aheadMark ":"]]
  | .parameter => [all [.one .name]]
  | .parameterDefault => [all [mark "=", rule .expression], guarded .badDefault]
  | .badArguments =>
    [problem .starredBehindMapping [rule .argumentList, mark ",", mark "*"],
      problem .bareGenerator
        [rule .expression, rule .clauses, mark ",", maybeRule .badArgumentsRest],
      problem .nameAssigned [.one .name, mark "=", rule .expression, rule .clauses],
      ⟨[rule .argumentList, rule .clauses], generatorBehind, false⟩,
      problem .bareGenerator [rule .argumentList, mark ",", rule .expression, rule .clauses],
      problemOf 0 behindArguments [rule .argumentList, mark ",", rule .argumentList]]
  | .badArgumentsRest => [same .argumentList, all [rule .expression, rule .clauses]]
  | .badKeyword =>
    [problemOf 0 (fun t => .constantAssigned (wordOf t)) [rule .constantWord, mark "="],
      problem .nameAssigned [.one .name, mark "=", rule .expression, rule .clauses],
      problem .argumentAssigned [.notAhead (.rule .nameEquals), rule .expression, mark "="]]
  | .constantWord => [pick 0 [mark "True"], pick 0 [mark "False"], pick 0 [mark "None"]]
  | .nameEquals => [all [.one .name, mark "="]]
  | .markedName => [all [.one .name, .one .text], all [.one .softWord]]
  | .badExpression =>
    [⟨[.notAhead (.rule .markedName), rule .disjunction, rule .plainExpression],
        behindExpression, false⟩,
      problem .elseMissing
        [rule .disjunction, mark "if", rule .disjunction, .notAhead (.rule .elseOrColon)]]
  | .elseOrColon => [all [mark "else"], all [mark ":"]]
  | .badCall => [⟨[.one .name, notAheadMark "(", rule .starExpressions], behindName, false⟩]
  | .badNamedExpression =>
    [problemOf 0 (fun t => .walrus t.wording) [rule .expression, mark ":=", rule .expression],
      problem .nameAssigned
        [.one .name, mark "=", rule .bitOr, .notAhead (.rule .equalsOrWalrus)],
      problemOf 1 (fun t => .assigned t.wording)
        [.notAhead (.rule .bareContainer), rule .bitOr, mark "=", rule .bitOr,
          .notAhead (.rule .equalsOrWalrus)]]
  | .bareContainer =>
    [same .tuple, same .generator, all [mark "True"], all [mark "None"], all [mark "False"]]
  | .equalsOrWalrus => [all [mark "="], all [mark ":="]]
  | .badBuilder =>
    [problem .unpackedElement [rule .anyOpening, rule .starredArgument, rule .clauses],
      problem .bareTarget
        [mark "\x7b", rule .element, mark ",", rule .elements, rule .clauses],
      problem .bareTarget [mark "\x7b", rule .element, mark ",", rule .clauses]]
  | .anyOpening => [all [mark "("], all [mark "\x7b"]]
  | .badDictionaryBuilder =>
    [problem .unpackedEntry
      [mark "\x7b", mark "**", rule .bitOr, rule .clauses, mark "\x7d"]]
  | .badParameters =>
    [problem .defaultBehindDefault
        [manyRule .plainParameter, rule .badParametersDefault, rule .plainParameter],
      problem .parameterBrackets
        [manyRule .plainParameter, mark "(", separatedRule .parameter, maybeMark ",", mark ")"],
      problem .nothingBeforeSlash [mark "/", mark ","],
      problem .secondSlash [rule .slashParameters, manyRule .anyParameter, mark "/"],
      problem .slashBehindStar
        [maybeRule .slashParameters, manyRule .anyParameter, mark "*", rule .commaOrPlain,
          manyRule .anyParameter, mark "/"],
      problem .starBehindSlash [someRule .anyParameter, mark "/", mark "*"]]
  | .badParametersDefault => [same .slashDefault, all [someRule .defaultParameter]]
  | .slashParameters => [same .slashPlain, same .slashDefault]
  | .commaOrPlain => [all [mark ","], same .plainParameter]
  | .badStarParameters =>
    [problem .bareStar [mark "*", rule .colonOrComma],
      problem .starDefault [mark "*", rule .parameter, mark "="],
      problem .secondStar
        [mark "*", rule .commaOrPlain, manyRule .anyParameter, mark "*", rule .commaOrPlain]]
  | .colonOrComma => [all [mark ":"], all [mark ",", rule .colonOrMapping]]
  | .colonOrMapping => [all [mark ":"], all [mark "**"]]
  | .badMappingParameter =>
    [problem .mappingDefault [mark "**", rule .parameter, mark "="],
      problem .behindMapping [mark "**", rule .parameter, mark ",", rule .parameter],
      problem .behindMapping [mark "**", rule .parameter, mark ",", rule .starOrSlash]]
  | .starOrSlash => [all [mark "*"], all [mark "**"], all [mark "/"]]
  | .badDefault => [problem .defaultMissing [mark "=", .ahead (.rule .closingOrComma)]]
  | .closingOrComma => [all [mark ")"], all [mark ","]]
  | .badTarget => [⟨[maybeMark "async", mark "for", rule .starExpressions], badLoopTarget, false⟩]
  | .badGroup =>
    [problem (.starred false) [mark "(", rule .starredArgument, mark ")"],
      problem (.starred true) [mark "(", mark "**", rule .expression, mark ")"]]
  | .badEntries =>
    [all [separatedRule .entry, mark ",", rule .badPair],
      problem .starredValue [rule .expression, mark ":", mark "*", rule .bitOr],
      problem .valueMissing [rule .expression, mark ":", .ahead (.rule .braceOrComma)]]
  | .badPair =>
    [problem .colonMissing [rule .expression, notAheadMark ":"],
      problem .starredValue [rule .expression, mark ":", mark "*", rule .bitOr],
      problem .valueMissing [rule .expression, mark ":", .ahead (.rule .braceOrComma)]]
  | .braceOrComma => [all [mark "\x7d"], all [mark ","]]

def isKept : Rule → Bool
  | .expression => true
  | .starExpression => true
  | .disjunction => true
  | .conjunction => true
  | .inversion => true
  | .factor => true
  | .awaited => true
  | .strings => true
  | .arguments => true
  | .target => true
  | .targetWithAtom => true
  | .badNamedExpression => true
  | _ => false

def isLeftRecursive : Rule → Bool
  | .bitOr => true
  | .bitXor => true
  | .bitAnd => true
  | .shift => true
  | .sum => true
  | .term => true
  | .primary => true
  | .targetPrimary => true
  | _ => false

end Rule

end CommentTags.Expression
