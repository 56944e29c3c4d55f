import CommentTags.Console.Table
import CommentTags.Tag

namespace CommentTags.Report

def table (marker : Text) (tags : List Tag) : Console.Table where
  title := marker ++ " tags".toList
  columns :=
    [⟨"File".toList, "path".toList, .left, tags.map (Console.dropControls ·.sourceFile)⟩,
      ⟨"Line".toList, [], .right, tags.map (Text.ofInt ·.lineNumber)⟩,
      ⟨"Title".toList, "bold".toList, .left, tags.map (Console.dropControls ·.title)⟩,
      ⟨"Description".toList, "dim".toList, .left, tags.map (Console.dropControls ·.description)⟩]

end CommentTags.Report
