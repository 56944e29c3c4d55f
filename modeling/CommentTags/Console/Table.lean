import CommentTags.Console.Line

namespace CommentTags.Console

inductive Side where
  | left
  | right
deriving DecidableEq, Repr

def Side.name : Side → Text
  | .left => "left".toList
  | .right => "right".toList

structure Column where
  header : Text
  style : Text
  side : Side := .left
  cells : List Text
deriving DecidableEq, Repr

/-- The title is markup, all else is plain text. -/
structure Table where
  title : Text
  columns : List Column
deriving DecidableEq, Repr

structure Edge where
  left : Char
  between : Char
  right : Char

namespace Edge

def line (e : Edge) (parts : List Text) : Text :=
  e.left :: ([e.between].intercalate parts ++ [e.right])

def rule (e : Edge) (fill : Char) (widths : List Nat) : Text :=
  e.line (widths.map (List.replicate · fill))

end Edge

def padded (width : Nat) (s : Text) : Text := s ++ blanks (width - cells s)

def cellLines (width : Nat) (s : Text) : List Text :=
  if width = 0 then [] else shownLines .abbreviate width s

def aligned (side : Side) (width : Nat) (s : Text) : Text :=
  let inner := width - 2
  let line :=
    match side with
    | .left => padded inner (abbreviate inner s)
    | .right =>
      let s := abbreviate inner (Text.dropEndWhile Text.isBlank s)
      blanks (inner - cells s) ++ s
  crop width (' ' :: (padded inner (abbreviate inner line) ++ [' ']))

def centred (width : Nat) (s : Text) : Text :=
  let s := crop width (Text.dropEndWhile Text.isBlank s)
  let rest := width - cells s
  blanks (rest / 2) ++ s ++ blanks (rest - rest / 2)

def endsLine (c : Char) : Bool := c.toNat ∈ [0x0A, 0x1C, 0x1D, 0x1E, 0x85, 0x2028, 0x2029]

def naturalLines (s : Text) : List Text :=
  Text.splitOn '\n' ((dropControls s).map (fun c => if endsLine c then '\n' else c))

namespace Column

def width (c : Column) : Nat :=
  2 + (((c.header :: c.cells).flatMap naturalLines).map Console.cells).foldl max 0

end Column

def nearest (n d : Nat) : Nat :=
  let below := n / d
  let twice := 2 * (n % d)
  if d < twice ∨ (twice = d ∧ below % 2 = 1) then below + 1 else below

def reduce (most share : Nat) : (count excess : Nat) → List Nat → List Nat
  | _, _, [] => []
  | count, excess, w :: ws =>
    if w = most then
      let part := min share (nearest excess count)
      (w - part) :: reduce most share (count - 1) (excess - part) ws
    else w :: reduce most share count excess ws

/-- Narrows the widest columns until the widths fit together; every round but the last makes the
widest ones as narrow as the next. -/
def collapse (limit : Nat) : (rounds : Nat) → List Nat → List Nat
  | 0, widths => widths
  | rounds + 1, widths =>
    let total := widths.foldl (· + ·) 0
    if total ≤ limit then widths
    else
      let most := widths.foldl max 0
      let next := (widths.filter (· != most)).foldl max 0
      collapse limit rounds
        (reduce most (min (total - limit) (most - next)) (widths.count most) (total - limit) widths)

namespace Table

def edges (t : Table) : Nat := t.columns.length + 1

def widths (t : Table) (console : Nat) : List Nat :=
  let limit := console - t.edges
  collapse limit t.columns.length (t.columns.map (fun c => min c.width limit))

def rowCount (t : Table) : Nat := (t.columns.map (·.cells.length)).foldl max 0

def row (t : Table) (i : Nat) : List Text := t.columns.map (fun c => c.cells[i]?.getD [])

def rowLines (e : Edge) (slots : List (Side × Nat)) (row : List Text) : List Text :=
  let parts := List.zipWith (fun (_, width) cell => cellLines (width - 2) cell) slots row
  let height := (parts.map List.length).foldl max 1
  (List.range height).map (fun i =>
    e.line (List.zipWith (fun (side, width) lines => aligned side width (lines[i]?.getD []))
      slots parts))

def body (t : Table) (console : Nat) : List Text :=
  let widths := t.widths console
  let slots := (t.columns.map (·.side)).zip widths
  let rows := (List.range t.rowCount).map (fun i => rowLines ⟨'│', '│', '│'⟩ slots (t.row i))
  (⟨'┏', '┳', '┓'⟩ : Edge).rule '━' widths ::
    (rowLines ⟨'┃', '┃', '┃'⟩ slots (t.columns.map (·.header)) ++
    (⟨'┡', '╇', '┩'⟩ : Edge).rule '━' widths ::
    [(⟨'├', '┼', '┤'⟩ : Edge).rule '─' widths].intercalate rows ++
    [(⟨'└', '┴', '┘'⟩ : Edge).rule '─' widths])

def width (t : Table) (console : Nat) : Nat := (t.widths console).foldl (· + ·) t.edges

def text (t : Table) (console : Nat) : Except MarkupError Text := do
  let width := t.width console
  let lines ← (← render t.title).lines width
  return (lines.map (centred width) ++ t.body console).flatMap (fun line =>
    crop console line ++ ['\n'])

end Table

end CommentTags.Console
