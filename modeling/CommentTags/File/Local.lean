import CommentTags.File.Access
import CommentTags.File.Disk

namespace CommentTags

namespace Disk

/-- Every line ending becomes a line feed. Where decoding gives up, only whole lines are there. -/
def reading (decoded : Decoded) : Reading :=
  let lines := decoded.text.unifyLineEnds.lines
  match decoded.problem with
  | none => ⟨lines, none⟩
  | some problem => ⟨lines.filter (fun l => l.getLast? = some '\n'), some (.undecodable problem)⟩

def readText (d : Disk) (path encoding : Text) (codecs : Codecs := {}) :
    Except Failure Reading :=
  if encoding.contains Failure.zero then .error .zeroInEncoding
  else
    match d.readBytes path with
    | .error failure => .error failure
    | .ok bytes =>
      match codecs.find? encoding with
      | none => .error (.unknownEncoding encoding)
      | some .binary => .error (.notText encoding)
      | some (.text decode) => .ok (reading (decode bytes))

theorem readText_of_decode? {d : Disk} {path encoding text : Text} {bytes : List UInt8}
    {e : Encoding} (hzero : Failure.zero ∉ encoding)
    (hname : Encoding.ofFileName? encoding = some e) (hbytes : d.readBytes path = .ok bytes)
    (htext : e.decode? bytes = some text) (codecs : Codecs) :
    d.readText path encoding codecs = .ok ⟨text.unifyLineEnds.lines, none⟩ := by
  simp [readText, hzero, hbytes, Codecs.find?, hname, Encoding.codec, htext, reading]

def entry (d : Disk) (followLinks : Bool) (dir name : Text) :
    Node → Except Failure (Option Entry)
  | .dir _ => .ok (some ⟨name, true⟩)
  | .file _ => .ok (some ⟨name, false⟩)
  | .link _ =>
    if followLinks then
      let path := Path.join dir name
      match d.node path with
      | .ok (.dir _) => .ok (some ⟨name, true⟩)
      | .ok _ => .ok (some ⟨name, false⟩)
      | .error code =>
        if code = Failure.fileMissing then .ok (some ⟨name, false⟩)
        else .error (.ofCode code path)
    else .ok none

def entriesOf (d : Disk) (followLinks : Bool) (dir : Text) :
    List (Text × Node) → Except Failure (List Entry)
  | [] => .ok []
  | (name, n) :: rest =>
    match d.entry followLinks dir name n with
    | .error failure => .error failure
    | .ok e => (entriesOf d followLinks dir rest).map (e.toList ++ ·)

/-- A directory is read from its newest entry to its oldest, and then sorted. -/
def listDir (d : Disk) (followLinks : Bool) (dir : Text) : Except Failure (List Entry) :=
  match d.readDir dir with
  | .error failure => .error failure
  | .ok es => (d.entriesOf followLinks dir es.reverse).map Entry.sort

def access (d : Disk) (followLinks : Bool) (codecs : Codecs := {}) : FileAccess where
  read path encoding := d.readText path encoding codecs
  list := d.listDir followLinks
  depth := d.depth

end Disk

end CommentTags
