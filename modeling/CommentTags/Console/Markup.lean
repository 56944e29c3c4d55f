import CommentTags.Console.Action
import CommentTags.Console.Emoji
import CommentTags.Console.Style

namespace CommentTags.Console

def opensTag (c : Char) : Bool := ('a' ≤ c && c ≤ 'z') || c == '#' || c == '/' || c == '@'

def tagEnd? : Text → Option (Text × Text)
  | [] => none
  | c :: s =>
    if c = ']' then some ([], s)
    else if c = '[' then none
    else (tagEnd? s).map (fun (body, rest) => (c :: body, rest))

def tagAt? : Text → Option (Text × Text)
  | '[' :: c :: s =>
    if opensTag c then (tagEnd? s).map (fun (body, rest) => (c :: body, rest)) else none
  | _ => none

theorem length_of_tagEnd? {s body rest : Text} (h : tagEnd? s = some (body, rest)) :
    rest.length < s.length := by
  induction s generalizing body with
  | nil => simp [tagEnd?] at h
  | cons c s ih =>
    unfold tagEnd? at h
    split at h
    · simp_all
    · split at h
      · simp at h
      · rw [Option.map_eq_some_iff] at h
        obtain ⟨⟨b, r⟩, hb, he⟩ := h
        obtain ⟨-, rfl⟩ := Prod.mk.inj he
        have := ih hb
        simp only [List.length_cons]
        omega

theorem length_of_tagAt? {s body rest : Text} (h : tagAt? s = some (body, rest)) :
    rest.length < s.length := by
  unfold tagAt? at h
  split at h
  · split at h
    · rw [Option.map_eq_some_iff] at h
      obtain ⟨⟨b, r⟩, hb, he⟩ := h
      obtain ⟨-, rfl⟩ := Prod.mk.inj he
      have := length_of_tagEnd? hb
      simp only [List.length_cons]
      omega
    · simp at h
  · simp at h

inductive Piece where
  | plain (text : Text)
  | tag (slashes : Nat) (body : Text)
deriving DecidableEq, Repr

def consPlain (c : Char) : List Piece → List Piece
  | .plain text :: ps => .plain (c :: text) :: ps
  | ps => .plain [c] :: ps

def pieces (s : Text) : List Piece :=
  match _h : tagAt? (s.dropWhile (· == '\\')) with
  | some (body, rest) => .tag (s.takeWhile (· == '\\')).length body :: pieces rest
  | none =>
    match s with
    | [] => []
    | c :: s => consPlain c (pieces s)
termination_by s.length
decreasing_by
  · have := length_of_tagAt? _h
    have := (List.dropWhile_sublist (l := s) (· == '\\')).length_le
    omega
  · simp

def slashes (n : Nat) : Text := List.replicate n '\\'

def bracketed (body : Text) : Text := '[' :: (body ++ [']'])

namespace Piece

def size : Piece → Nat
  | .plain text => text.length
  | .tag n body => n + (bracketed body).length

def escaped : Piece → Text
  | .plain text => text
  | .tag n body => slashes (2 * n + 1) ++ bracketed body

end Piece

def escape (s : Text) : Text :=
  let shown := (pieces s).flatMap Piece.escaped
  match shown.reverse with
  | '\\' :: '\\' :: _ => shown
  | '\\' :: _ => shown ++ ['\\']
  | _ => shown

inductive MarkupError where
  | unmatched (tag : Text) (position : Nat)
  | nothingOpen (position : Nat)
  | number (e : NumberError)
  | action (value : Text) (p : Expression.Problem)
deriving DecidableEq, Repr

namespace MarkupError

def kind : MarkupError → Text
  | .number _ => "ValueError".toList
  | _ => "MarkupError".toList

def message : MarkupError → Text
  | .unmatched tag position =>
    "closing tag '".toList ++ tag ++ "' at position ".toList ++ Text.ofNat position ++
      " doesn't match any open tag".toList
  | .nothingOpen position =>
    "closing tag '[/]' at position ".toList ++ Text.ofNat position ++ " has nothing to close".toList
  | .number e => e.message
  | .action value p => Action.message value p

end MarkupError

structure Span where
  start : Nat
  stop : Nat
  style : Text
deriving DecidableEq, Repr

structure StyledText where
  text : Text
  spans : List Span
deriving DecidableEq, Repr

namespace StyledText

def behind (front : Text) (t : StyledText) : StyledText := { t with text := front ++ t.text }

def fault? (t : StyledText) : Option NumberError :=
  t.spans.findSome? (fun span =>
    match Style.ofWords span.style with
    | .error (.number e) => some e
    | _ => none)

def withoutEmptySpans (t : StyledText) : StyledText :=
  let isShown (span : Span) := (t.text.extract span.start span.stop).any (· != '\n')
  { t with spans := t.spans.filter isShown }

end StyledText

structure OpenStyle where
  name : Text
  value : Option Text
  start : Nat
deriving DecidableEq, Repr

namespace OpenStyle

def spans (o : OpenStyle) (stop : Nat) : List Span :=
  match o.name with
  | '@' :: _ => []
  | name => [⟨o.start, stop, name ++ (o.value.map (' ' :: ·)).getD []⟩]

/-- The fault that shows when a style is closed: a name with an at sign stands for an action, which
is read only now. -/
def fault? (o : OpenStyle) : Option MarkupError :=
  match o.name, o.value with
  | '@' :: _, some (c :: value) => (Action.problem? (c :: value)).map (.action (c :: value))
  | _, _ => none

end OpenStyle

structure Styling where
  stack : List OpenStyle
  closed : List Span
deriving DecidableEq, Repr

namespace Styling

def finish (s : Styling) (stop : Nat) : List Span :=
  (s.stack.foldl (fun closed o => o.spans stop ++ closed) s.closed).mergeSort
    (fun a b => a.start ≤ b.start)

def close (s : Styling) (o : OpenStyle) (rest : List OpenStyle) (stop : Nat) :
    Except MarkupError Styling :=
  match o.fault? with
  | some e => .error e
  | none => .ok ⟨rest, o.spans stop ++ s.closed⟩

def apply (s : Styling) (body : Text) (position place : Nat) : Except MarkupError Styling :=
  match Text.cut '=' body with
  | ('/' :: name, _) =>
    if (Text.trim name).isEmpty then
      match s.stack with
      | [] => .error (.nothingOpen position)
      | o :: rest => s.close o rest place
    else do
      let name ← (styleName (Text.trim name)).mapError .number
      match s.stack.find? (·.name = name) with
      | none => .error (.unmatched (bracketed body) position)
      | some o => s.close o (s.stack.eraseP (·.name = name)) place
  | (name, value) => do
    let name ← (styleName name).mapError .number
    return { s with stack := ⟨name, value, place⟩ :: s.stack }

end Styling

def movesCursor (c : Char) : Bool := c.toNat ∈ [7, 8, 11, 12, 13]

def dropControls (s : Text) : Text := s.filter (fun c => !movesCursor c)

def unescaped : Text → Text
  | '\\' :: '[' :: s => '[' :: unescaped s
  | c :: s => c :: unescaped s
  | [] => []

def shownText (s : Text) : Text := dropControls (withEmoji s)

def renderFrom (position place : Nat) (styling : Styling) :
    List Piece → Except MarkupError StyledText
  | [] => .ok ⟨[], styling.finish place⟩
  | .plain text :: ps =>
    let shown := shownText (unescaped text)
    (renderFrom (position + text.length) (place + shown.length) styling ps).map (·.behind shown)
  | .tag n body :: ps =>
    let next := position + (Piece.tag n body).size
    let front := slashes (n / 2)
    if n % 2 = 1 then
      let shown := front ++ shownText (bracketed body)
      (renderFrom next (place + shown.length) styling ps).map (·.behind shown)
    else do
      let styling ← styling.apply body (position + n) (place + front.length)
      (renderFrom next (place + front.length) styling ps).map (·.behind front)

def render (markup : Text) : Except MarkupError StyledText :=
  renderFrom 0 0 ⟨[], []⟩ (pieces markup)

end CommentTags.Console
