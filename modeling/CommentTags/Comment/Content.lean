import CommentTags.Comment.Classify

namespace CommentTags

structure Content where
  text : Text
  found : Bool
deriving DecidableEq, Repr

namespace Content

def nothing : Content := ⟨[], false⟩

def commentFields (line : Text) (kind : LineKind) (delimiter : Text) : List Text :=
  let fs := line.fields
  if kind = .blockEnd ∧ fs.getLast? = some delimiter then fs.dropLast else fs

def after? (marker : Text) : List Text → Option (List Text)
  | [] => none
  | f :: fs => if f = marker then some fs else after? marker fs

theorem after?_isSome_iff (marker : Text) (fs : List Text) :
    (after? marker fs).isSome = true ↔ marker ∈ fs := by
  induction fs with
  | nil => simp [after?]
  | cons f fs ih =>
    by_cases h : f = marker
    · simp [after?, h]
    · have h' : marker ≠ f := fun e => h e.symm
      simp [after?, h, h', ih]

def afterLast (delimiter : Text) (fs : List Text) : List Text :=
  (fs.reverse.takeWhile (· != delimiter)).reverse

def ofLine (line marker : Text) (kind : LineKind) (delimiter : Text) : Content :=
  let fs := commentFields line kind delimiter
  match after? marker fs with
  | some rest => ⟨Text.spaced rest, true⟩
  | none => ⟨Text.spaced (afterLast delimiter fs), false⟩

end Content

def CommentStyle.feed (style : CommentStyle) (marker : Text) (state : CommentState)
    (line : Text) : CommentState × Content :=
  let next := style.classify state line
  (next,
    if next.kind.isComment then Content.ofLine line marker next.kind next.delimiter
    else .nothing)

end CommentTags
