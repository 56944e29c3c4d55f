import CommentTags.Text.Printable

namespace CommentTags.Text

def quoteMark (s : Text) : Char :=
  if '\'' ∈ s ∧ '"' ∉ s then '"' else '\''

def quotedChar (mark c : Char) : Text :=
  if c == mark || c == '\\' then ['\\', c]
  else if c == '\n' then ['\\', 'n']
  else if c == '\r' then ['\\', 'r']
  else if c == '\t' then ['\\', 't']
  else if isPrintable c then [c]
  else if c.toNat < 0x100 then '\\' :: 'x' :: hex 2 c.toNat
  else if c.toNat < 0x10000 then '\\' :: 'u' :: hex 4 c.toNat
  else '\\' :: 'U' :: hex 8 c.toNat

def quoted (s : Text) : Text :=
  let mark := quoteMark s
  mark :: (s.flatMap (quotedChar mark) ++ [mark])

def quotedTuple : List Text → Text
  | [] => "()".toList
  | [s] => '(' :: (quoted s ++ ",)".toList)
  | ss => '(' :: ((", ".toList).intercalate (ss.map quoted) ++ [')'])

end CommentTags.Text
