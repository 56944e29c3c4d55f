import CommentTags.Comment.Content
import CommentTags.Tag
import CommentTags.Journal

namespace CommentTags

structure Search where
  style : CommentStyle
  marker : Text
  sourceFile : Text

inductive Yield where
  | tag (t : Tag)
  | dropped (d : Draft)
deriving DecidableEq, Repr

namespace Yield

def ofDraft (d : Draft) : Yield :=
  if d.finish.isValid then .tag d.finish else .dropped d

def tag? : Yield → Option Tag
  | .tag t => some t
  | .dropped _ => none

def record? : Yield → Option Record
  | .tag _ => none
  | .dropped d => some
    { level := .trace
      source := "issue_summoner.tag.walker".toList
      message := "Dropped ".toList ++ d.marker ++ " without title at ".toList ++ d.sourceFile ++
        ':' :: Text.ofInt d.lineNumber }

end Yield

/-- What is carried from line to line: the state of the comment, and the draft with the kind of
the line that started it. -/
structure Assembly where
  comment : CommentState := .initial
  draft : Option (Draft × LineKind) := none
deriving DecidableEq, Repr

namespace Assembly

def initial : Assembly := {}

def release : Option (Draft × LineKind) → List Yield
  | some (d, _) => [.ofDraft d]
  | none => []

/-- A comment line that does not start a tag describes the draft, or ends it when it is a comment
of another kind than the single lines of the draft. -/
def describe (kind : LineKind) (content : Text) :
    Option (Draft × LineKind) → List Yield × Option (Draft × LineKind)
  | none => ([], none)
  | some (d, first) =>
    if first = .single ∧ kind ≠ .single then ([.ofDraft d], none)
    else ([], some (d.describe content, first))

def absorb (search : Search) (number : Nat) (kind : LineKind) (content : Content)
    (draft : Option (Draft × LineKind)) : List Yield × Option (Draft × LineKind) :=
  if content.found then
    (release draft,
      some (⟨search.marker, content.text, search.sourceFile, number, []⟩, kind))
  else describe kind content.text draft

def step (search : Search) (a : Assembly) (number : Nat) (line : Text) : List Yield × Assembly :=
  let (next, content) := search.style.feed search.marker a.comment line.dropLineEnd
  if next.kind.isComment then
    let (out, draft) := absorb search number next.kind content a.draft
    if next.closesBlock then (out ++ release draft, ⟨next, none⟩) else (out, ⟨next, draft⟩)
  else (release a.draft, ⟨next, none⟩)

def advance (search : Search) : Assembly → Nat → List Text → List Yield × Assembly
  | a, _, [] => ([], a)
  | a, number, line :: rest =>
    let (out, next) := step search a number line
    let (more, last) := advance search next (number + 1) rest
    (out ++ more, last)

def yields (search : Search) (lines : List Text) : List Yield :=
  let (out, last) := advance search .initial 1 lines
  out ++ release last.draft

end Assembly

def scanLines (search : Search) (lines : List Text) : List Tag :=
  (Assembly.yields search lines).filterMap Yield.tag?

def scanJournal (search : Search) (lines : List Text) : Journal :=
  (Assembly.yields search lines).filterMap Yield.record?

end CommentTags
