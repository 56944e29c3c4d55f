import CommentTags.Text.Quoted

namespace CommentTags

structure CommentStyle where
  single : List Text := []
  blocks : List (Text × Text) := []
deriving DecidableEq, Repr

namespace CommentStyle

structure Unpaired where
  starts : List Text
  ends : List Text
deriving DecidableEq, Repr

def Unpaired.message (u : Unpaired) : Text :=
  "multi-line start and end prefixes must be paired: ".toList ++ Text.quotedTuple u.starts ++
    " vs ".toList ++ Text.quotedTuple u.ends

def ofDelimiters (single starts ends : List Text) : Except Unpaired CommentStyle :=
  if starts.length = ends.length then .ok ⟨single, starts.zip ends⟩ else .error ⟨starts, ends⟩

def cFamily : CommentStyle := ⟨["//".toList], [("/*".toList, "*/".toList)]⟩

def hashAndQuotes : CommentStyle :=
  ⟨["#".toList], [("\"\"\"".toList, "\"\"\"".toList), ("'''".toList, "'''".toList)]⟩

def markupBlocks : CommentStyle := ⟨[], [("<!--".toList, "-->".toList)]⟩

/-- A hash sign starts a comment and would also open and close a block. -/
def hash : CommentStyle := ⟨["#".toList], [("#".toList, "#".toList)]⟩

end CommentStyle

structure Registry where
  table : List (Text × CommentStyle)
  fallback : CommentStyle

namespace Registry

def contains (r : Registry) (extension : Text) : Bool :=
  (r.table.lookup extension).isSome

def styleOf (r : Registry) (extension : Text) : CommentStyle :=
  (r.table.lookup extension).getD r.fallback

def cExtensions : List Text :=
  [".c", ".cpp", ".cs", ".go", ".java", ".js", ".jsx", ".kt", ".m", ".php", ".rs", ".scala",
    ".swift", ".tsx", ".ts"].map String.toList

def standard : Registry where
  table := cExtensions.map (·, .cFamily) ++
    [(".py".toList, .hashAndQuotes), (".md".toList, .markupBlocks)]
  fallback := .hash

end Registry

end CommentTags
