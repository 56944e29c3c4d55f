import CommentTags.Comment.Style

namespace CommentTags

inductive LineKind where
  | code
  | single
  | blockStart
  | blockEnd
deriving DecidableEq, Repr

namespace LineKind

def all : List LineKind := [.code, .single, .blockStart, .blockEnd]

def name : LineKind → Text
  | .code => "src-code".toList
  | .single => "single".toList
  | .blockStart => "multi-start".toList
  | .blockEnd => "multi-end".toList

def ofName? (s : Text) : Option LineKind := all.find? (·.name = s)

def isComment : LineKind → Bool
  | .code => false
  | _ => true

end LineKind

/-- What a line leaves for the next one: its delimiter and kind, and the pair of a block that is
still open. -/
structure CommentState where
  delimiter : Text := []
  kind : LineKind := .code
  openBlock : Option (Text × Text) := none
deriving DecidableEq, Repr

namespace CommentState

def initial : CommentState := {}

def inBlock (s : CommentState) : Bool := s.openBlock.isSome

def closesBlock (s : CommentState) : Bool :=
  s.kind == .blockEnd || (s.kind == .blockStart && !s.inBlock)

def continues (s : CommentState) (trimmed : Text) : Bool :=
  s.kind == .single && (s.delimiter.isPrefixOf trimmed || s.delimiter.isSuffixOf trimmed)

end CommentState

namespace CommentStyle

/-- The block is closed on the line that opens it, by an end that does not overlap its start. -/
def closesAtOnce (start close trimmed : Text) : Bool :=
  start.length + close.length ≤ trimmed.length && close.isSuffixOf trimmed

def blockState (trimmed : Text) : List (Text × Text) → CommentState
  | [] => .initial
  | (start, close) :: pairs =>
    if start.isPrefixOf trimmed then
      ⟨start, .blockStart, if closesAtOnce start close trimmed then none else some (start, close)⟩
    else if close.isSuffixOf trimmed then ⟨close, .blockEnd, none⟩
    else blockState trimmed pairs

def fresh (style : CommentStyle) (trimmed : Text) : CommentState :=
  match style.single.find? (·.isPrefixOf trimmed) with
  | some d => ⟨d, .single, none⟩
  | none => blockState trimmed style.blocks

def classify (style : CommentStyle) (state : CommentState) (line : Text) : CommentState :=
  let trimmed := line.trim
  match state.openBlock with
  | some (_, close) => if close.isSuffixOf trimmed then ⟨close, .blockEnd, none⟩ else state
  | none => if state.continues trimmed then state else style.fresh trimmed

theorem classify_open (style : CommentStyle) (state : CommentState) (line start close : Text)
    (h : state.openBlock = some (start, close)) :
    style.classify state line =
      if close.isSuffixOf line.trim then ⟨close, .blockEnd, none⟩ else state := by
  simp [classify, h]

theorem classify_initial (style : CommentStyle) (line : Text) :
    style.classify .initial line = style.fresh line.trim := by
  simp [classify, CommentState.initial, CommentState.continues]

end CommentStyle

end CommentTags
