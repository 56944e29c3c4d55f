import CommentTags.Text

namespace CommentTags.Path

/-- The path of an entry below a directory; an entry with a leading slash stands for itself. -/
def join (dir name : Text) : Text :=
  if name.head? = some '/' then name
  else if dir.isEmpty || dir.getLast? = some '/' then dir ++ name
  else dir ++ '/' :: name

def splitLast (path : Text) : Text × Text :=
  let name := (path.reverse.takeWhile (· != '/')).reverse
  (path.take (path.length - name.length), name)

def baseName (path : Text) : Text := (splitLast path).2

def dirName (path : Text) : Text :=
  let head := (splitLast path).1
  if head.all (· == '/') then head else Text.dropEndWhile (· == '/') head

def extension (path : Text) : Text :=
  let name := (baseName path).dropWhile (· == '.')
  if '.' ∈ name then '.' :: (name.reverse.takeWhile (· != '.')).reverse else []

def components (path : Text) : List Text :=
  (path.splitOn '/').filter (fun c => !c.isEmpty && c != ['.'])

def root (path : Text) : Text :=
  match (path.takeWhile (· == '/')).length with
  | 0 => []
  | 2 => ['/', '/']
  | _ => ['/']

def ofParts (root : Text) (parts : List Text) : Text :=
  let path := root ++ ['/'].intercalate parts
  if path.isEmpty then ['.'] else path

def tidy (path : Text) : Text := ofParts (root path) (components path)

def parent (path : Text) : Text := ofParts (root path) (components path).dropLast

end CommentTags.Path
