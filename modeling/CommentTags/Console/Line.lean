import CommentTags.Console.Markup
import CommentTags.Console.Wrap

namespace CommentTags.Console

def blanks (n : Nat) : Text := List.replicate n ' '

def tabWidth : Nat := 8

def spreadFrom (column : Nat) : List Text → Text
  | [] => []
  | [part] => part
  | part :: parts =>
    let part := part ++ [' ']
    let stop := column + cells part
    let gap := (tabWidth - stop % tabWidth) % tabWidth
    part ++ blanks gap ++ spreadFrom (stop + gap) parts

def expandTabs (line : Text) : Text := spreadFrom 0 (line.splitOn '\t')

def shownLines (overflow : Overflow) (width : Nat) (s : Text) : List Text :=
  (Text.splitOn '\n' (dropControls s)).flatMap (fun line =>
    wrapLine overflow width (expandTabs line))

def isParameter (c : Char) : Bool := '0' ≤ c && c ≤ '?'
def isIntermediate (c : Char) : Bool := ' ' ≤ c && c ≤ '/'
def endsSequence (c : Char) : Bool := '@' ≤ c && c ≤ '~'

def afterSequence? (s : Text) : Option Text :=
  match (s.dropWhile isParameter).dropWhile isIntermediate with
  | c :: rest => if endsSequence c then some rest else none
  | [] => none

theorem length_of_afterSequence? {s rest : Text} (h : afterSequence? s = some rest) :
    rest.length < s.length := by
  have h₁ := (List.dropWhile_sublist (l := s) isParameter).length_le
  have h₂ := (List.dropWhile_sublist (l := s.dropWhile isParameter) isIntermediate).length_le
  unfold afterSequence? at h
  split at h
  · rename_i c r hr
    rw [hr, List.length_cons] at h₂
    split at h
    · simp only [Option.some.injEq] at h
      subst h
      omega
    · simp at h
  · simp at h

def withoutSequences : Text → Text
  | [] => []
  | c :: s =>
    match _h : (if c = '\x1b' ∧ s.head? = some '[' then afterSequence? s.tail else none) with
    | some rest => withoutSequences rest
    | none => c :: withoutSequences s
termination_by s => s.length
decreasing_by
  · split at _h
    · have := length_of_afterSequence? _h
      simp only [List.length_cons, List.length_tail] at *
      omega
    · simp at _h
  · simp

def StyledText.lines (width : Nat) (t : StyledText) : Except MarkupError (List Text) :=
  let lines := shownLines .fold width t.text
  let isDivided := lines.length ≠ 1 ∨ '\t' ∈ t.text
  match (if isDivided then t.withoutEmptySpans else t).fault? with
  | some e => .error (.number e)
  | none => .ok lines

def printed (width : Nat) (markup : Text) : Except MarkupError Text := do
  let lines ← (← render markup).lines width
  return lines.flatMap (fun line => crop width line ++ ['\n'])

end CommentTags.Console
