import CommentTags.Expression

namespace CommentTags.Console.Action

def arguments (s : Text) : Text :=
  let s := Text.trim s
  let rest := s.dropWhile (fun c => Text.isWordPart c || c == '.')
  let isBracketed := rest.head? = some '(' ∧ rest.getLast? = some ')' ∧ !rest.contains '\n'
  if rest.isEmpty then "()".toList
  else if isBracketed then rest
  else s

def problem? (value : Text) : Option Expression.Problem :=
  Expression.problem? (arguments value)

def message (value : Text) (p : Expression.Problem) : Text :=
  let arguments := if p.isSyntactic then Text.quoted (arguments value) ++ " in ".toList else []
  "error parsing ".toList ++ arguments ++ Text.quoted value ++ "; ".toList ++ p.message

end CommentTags.Console.Action
