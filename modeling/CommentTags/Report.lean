import CommentTags.File.Disk
import CommentTags.Journal
import CommentTags.Json.Writer
import CommentTags.Tag

/-!
The report of a scan as a JSON document, and the issues that could be opened for its tags. Its
numbers are taken to be short enough to be written.
-/

namespace CommentTags

structure Issue where
  title : Text
  body : Text
deriving DecidableEq, Repr

def Tag.issue (t : Tag) : Issue :=
  let place := "Location: ".toList ++ t.sourceFile ++ ':' :: Text.ofInt t.lineNumber
  ⟨t.title, if t.description.isEmpty then place else t.description ++ "\n\n".toList ++ place⟩

def Tag.json (t : Tag) : Json :=
  .object
    [("annotation".toList, .text t.marker), ("title".toList, .text t.title),
      ("description".toList, .text t.description), ("source_file".toList, .text t.sourceFile),
      ("line_number".toList, .int t.lineNumber)]

structure Report where
  root : Text
  marker : Text
  tags : List Tag
deriving DecidableEq, Repr

namespace Report

def json (r : Report) : Json :=
  .object
    [("root".toList, .text r.root), ("annotation".toList, .text r.marker),
      ("total".toList, .int r.tags.length), ("tags".toList, .list (r.tags.map Tag.json))]

def text (r : Report) : Text := r.json.page ++ ['\n']

structure Saved where
  path : Text
  disk : Disk

def save (r : Report) (disk : Disk) (path : Text) : Except Failure Saved := do
  let path := Path.tidy path
  let disk ← disk.ensureDir (Path.parent path)
  let disk ← disk.writeBytes false path (Utf8.encode r.text)
  return ⟨path, disk⟩

def savedNote (path : Text) : Record :=
  { level := .debug
    source := "issue_summoner.report".toList
    message := "Report written to ".toList ++ path }

end Report

end CommentTags
