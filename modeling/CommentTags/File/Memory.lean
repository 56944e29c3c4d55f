import CommentTags.File.Access
import CommentTags.Path

namespace CommentTags

structure MemoryFiles where
  files : List (Text × Text)
  dirs : List Text
  openFailures : List (Text × Failure) := []
  listFailures : List (Text × Failure) := []
  readFailures : List (Text × Nat × Failure) := []
  descending : Bool := false

namespace MemoryFiles

def newDirs (root : Text) : (fuel : Nat) → Text → List Text → List Text
  | 0, _, known => known
  | fuel + 1, path, known =>
    let dir := Path.dirName path
    if root.isPrefixOf dir && !known.contains dir then newDirs root fuel dir (known ++ [dir])
    else known

def add (root : Text) (m : MemoryFiles) (path content : Text) : MemoryFiles :=
  let full := Path.join root (Text.dropEndWhile (· == '/') path)
  let isDir := path.getLast? = some '/'
  let dirs := if isDir && !m.dirs.contains full then m.dirs ++ [full] else m.dirs
  { m with
    files := if isDir then m.files else m.files.filter (·.1 ≠ full) ++ [(full, content)]
    dirs := newDirs root (full.length + 1) full dirs }

def ofFiles (root : Text) (files : List (Text × Text)) : MemoryFiles :=
  files.foldl (fun m f => add root m f.1 f.2) { files := [], dirs := [root] }

def read (m : MemoryFiles) (path : Text) : Except Failure Reading :=
  match m.openFailures.lookup path, m.files.lookup path with
  | some failure, _ => .error failure
  | none, none => .error (.ofCode Failure.fileMissing path)
  | none, some content =>
    let lines := content.lines
    match m.readFailures.lookup path with
    | some (count, failure) =>
      if count ≤ lines.length then .ok ⟨lines.take count, some failure⟩ else .ok ⟨lines, none⟩
    | none => .ok ⟨lines, none⟩

def list (m : MemoryFiles) (dir : Text) : Except Failure (List Entry) :=
  match m.listFailures.lookup dir with
  | some failure => .error failure
  | none =>
    if m.dirs.contains dir then
      let subdirs := m.dirs.filter (fun d => d ≠ dir && Path.dirName d == dir)
      let files := (m.files.map (·.1)).filter (fun f => Path.dirName f == dir)
      let entries := Entry.sort (subdirs.map (⟨Path.baseName ·, true⟩) ++
        files.map (⟨Path.baseName ·, false⟩))
      .ok (if m.descending then entries.reverse else entries)
    else .error (.ofCode Failure.fileMissing dir)

def access (m : MemoryFiles) : FileAccess where
  read path _ := m.read path
  list := m.list
  depth := m.dirs.length + 1

end MemoryFiles

end CommentTags
