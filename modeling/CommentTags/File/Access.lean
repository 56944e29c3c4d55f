import CommentTags.File.Failure

namespace CommentTags

structure Reading where
  lines : List Text
  failure : Option Failure := none
deriving DecidableEq, Repr

structure Entry where
  name : Text
  isDir : Bool
deriving DecidableEq, Repr

namespace Entry

def before (a b : Entry) : Bool :=
  decide (a.name < b.name) || (a.name == b.name && (!a.isDir || b.isDir))

def sort (es : List Entry) : List Entry := es.mergeSort before

end Entry

/-- Read access to a file system. No chain of directories is longer than its depth. -/
structure FileAccess where
  read : (path encoding : Text) → Except Failure Reading
  list : (dir : Text) → Except Failure (List Entry)
  depth : Nat

end CommentTags
