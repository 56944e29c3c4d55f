import CommentTags.Text

namespace CommentTags

structure Tag where
  marker : Text
  title : Text
  description : Text
  sourceFile : Text
  lineNumber : Int
deriving DecidableEq, Repr

def Tag.isValid (t : Tag) : Bool := !t.title.trim.isEmpty

structure Draft where
  marker : Text
  title : Text
  sourceFile : Text
  lineNumber : Int
  description : List Text := []
deriving DecidableEq, Repr

namespace Draft

def describe (d : Draft) (content : Text) : Draft :=
  let line := content.trim
  if line.isEmpty then d else { d with description := d.description ++ [line] }

def finish (d : Draft) : Tag where
  marker := d.marker
  title := d.title.trim
  description := Text.trim (['\n'].intercalate d.description)
  sourceFile := d.sourceFile
  lineNumber := d.lineNumber

end Draft

end CommentTags
