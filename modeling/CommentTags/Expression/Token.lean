import CommentTags.Expression.Problem
import CommentTags.Text.Letters

namespace CommentTags.Expression

inductive Lexeme where
  | name (s : Text)
  | number (s : Text)
  | text (letters body : Text)
  | mark (s : Text)
  | lineEnd
  | indent
  | dedent
  | finish
deriving DecidableEq, Repr

def Lexeme.lineEnds : Lexeme → Nat
  | .text _ body => body.count '\n'
  | _ => 0

structure Token where
  lexeme : Lexeme
  line : Nat
  depth : Nat
deriving DecidableEq, Repr

inductive Ending where
  | complete
  | refused (p : Problem)
  | stopped (p : Problem)
deriving DecidableEq, Repr

structure Tokens where
  tokens : List Token
  ending : Ending
  opened : List (Char × Nat)
deriving DecidableEq, Repr

def isNameChar (c : Char) : Bool := c.isAlphanum || c == '_' || 0x80 ≤ c.toNat

def reservedWords : List Text :=
  ["False", "None", "True", "and", "as", "assert", "async", "await", "break", "class", "continue",
    "def", "del", "elif", "else", "except", "finally", "for", "from", "global", "if", "import",
    "in", "is", "lambda", "nonlocal", "not", "or", "pass", "raise", "return", "try", "while",
    "with", "yield"].map String.toList

def longMarks : List Text :=
  ["**=", "...", "//=", "<<=", ">>=", "!=", "%=", "&=", "**", "*=", "+=", "-=", "->", "//", "/=",
    ":=", "<<", "<=", "<>", "==", ">=", ">>", "@=", "^=", "|="].map String.toList

def textLetters : List Text := ["b", "r", "u", "f", "br", "rb", "fr", "rf"].map String.toList

def textBody? (quote : Char) (tripled : Bool) : Text → Option (Text × Text)
  | [] => none
  | '\\' :: c :: s =>
    (textBody? quote tripled s).map (fun (body, rest) => ('\\' :: c :: body, rest))
  | c :: s =>
    if c = quote ∧ !tripled then some ([], s)
    else if c = quote ∧ [quote, quote].isPrefixOf s then some ([], s.drop 2)
    else if c = '\n' ∧ !tripled then none
    else (textBody? quote tripled s).map (fun (body, rest) => (c :: body, rest))

def unendedLine : Text → Text
  | '\\' :: c :: s => '\\' :: c :: unendedLine s
  | c :: s => if c = '\n' then [] else c :: unendedLine s
  | [] => []

def furtherLines (s : Text) : Nat := s.dropLast.count '\n'

def readText (line : Nat) (letters : Text) (quote : Char) (s : Text) :
    Except Problem (Lexeme × Text) :=
  let tripled := [quote, quote].isPrefixOf s
  let start := if tripled then s.drop 2 else s
  match textBody? quote tripled start with
  | some (body, rest) => .ok (.text letters body, rest)
  | none =>
    let seen := if tripled then start else unendedLine start
    .error (.openText tripled (line + furtherLines seen))

def startsWord (word : String) (s : Text) : Bool :=
  word.toList.isPrefixOf s && !(s.drop word.length).head?.any isNameChar

def endNumber (kind rest : Text) : Except Problem Text :=
  let isWord := ["and", "else", "for", "or", "not"].any (startsWord · rest) ||
    ["if", "in", "is"].any (·.toList.isPrefixOf rest)
  if rest.head?.any isNameChar && !isWord then .error (.badNumber kind) else .ok rest

def behindDigits : Text → Except Problem Text
  | '_' :: c :: s => if Text.isDigit c then behindDigits s else .error (.badNumber "decimal".toList)
  | '_' :: [] => .error (.badNumber "decimal".toList)
  | c :: s => if Text.isDigit c then behindDigits s else .ok (c :: s)
  | [] => .ok []

def behindNumber : Text → Except Problem Text
  | 'j' :: s => endNumber "imaginary".toList s
  | 'J' :: s => endNumber "imaginary".toList s
  | s => endNumber "decimal".toList s

def behindExponent (s : Text) : Except Problem Text :=
  match s with
  | [] => .ok []
  | e :: t =>
    if e = 'e' ∨ e = 'E' then
      match t with
      | [] => endNumber "decimal".toList s
      | c :: u =>
        if Text.isDigit c then do behindNumber (← behindDigits u)
        else if c = '+' ∨ c = '-' then
          if u.head?.any Text.isDigit then do behindNumber (← behindDigits u)
          else .error (.badNumber "decimal".toList)
        else endNumber "decimal".toList s
    else behindNumber s

def behindPoint (s : Text) : Except Problem Text :=
  match s with
  | c :: t => if Text.isDigit c then do behindExponent (← behindDigits t) else behindExponent s
  | [] => .ok []

def behindWhole : Text → Except Problem Text
  | '.' :: s => behindPoint s
  | s => behindExponent s

def behindBased (kind : Text) (isDigit : Char → Bool) : Nat → Text → Except Problem Text
  | 0, s => .ok s
  | fuel + 1, s =>
    let group := if s.head? = some '_' then s.drop 1 else s
    let rest := group.dropWhile isDigit
    match group.head? with
    | none => .error (.badNumber kind)
    | some c =>
      if !isDigit c then
        .error (if Text.isDigit c then .badDigit c kind else .badNumber kind)
      else if rest.head? = some '_' then behindBased kind isDigit fuel rest
      else
        match rest with
        | c :: _ => if Text.isDigit c then .error (.badDigit c kind) else endNumber kind rest
        | [] => .ok []

def behindZero (s : Text) : Except Problem Text := do
  match s with
  | [] => return []
  | c :: t =>
    if c = 'x' ∨ c = 'X' then behindBased "hexadecimal".toList Text.isHexDigit (t.length + 1) t
    else if c = 'o' ∨ c = 'O' then
      behindBased "octal".toList (fun c => '0' ≤ c && c ≤ '7') (t.length + 1) t
    else if c = 'b' ∨ c = 'B' then
      behindBased "binary".toList (fun c => c == '0' || c == '1') (t.length + 1) t
    else
      let rest ← behindDigits s
      let digits := s.take (s.length - rest.length)
      let goesOn := rest.head?.any (".eEjJ".toList.contains ·)
      if digits.any (fun c => c != '0' && c != '_') && !goesOn then throw .leadingZeros
      else behindWhole rest

def readNumber (s : Text) : Except Problem (Lexeme × Text) := do
  let rest ←
    match s with
    | '.' :: t => behindPoint t
    | '0' :: t => behindZero t
    | s => do behindWhole (← behindDigits (s.drop 1))
  return (.number (s.take (s.length - rest.length)), rest)

def badInName? : Text → Option Char
  | [] => none
  | c :: s => if Text.startsName c then s.find? (!Text.isNamePart ·) else some c

def readWord (line : Nat) (s : Text) : Except Problem (Lexeme × Text) :=
  let word := s.takeWhile isNameChar
  let rest := s.dropWhile isNameChar
  let isMarked := textLetters.contains (word.map Char.toLower)
  match rest with
  | '"' :: body => if isMarked then readText line word '"' body else asName word rest
  | '\'' :: body => if isMarked then readText line word '\'' body else asName word rest
  | _ => asName word rest
where
  asName (word rest : Text) : Except Problem (Lexeme × Text) :=
    match badInName? word with
    | some c => .error (.badCharacter c)
    | none => .ok (if reservedWords.contains word then .mark word else .name word, rest)

def closes : Char → Option Char
  | ')' => some '('
  | '\x7d' => some '\x7b'
  | ']' => some '['
  | _ => none

def opens (c : Char) : Bool := c == '(' || c == '\x7b' || c == '['

def nest (line : Nat) (opened : List (Char × Nat)) (c : Char) :
    Except Problem (List (Char × Nat)) :=
  if opens c then
    if 200 ≤ opened.length then .error .tooManyBrackets else .ok ((c, line) :: opened)
  else
    match closes c, opened with
    | none, _ => .ok opened
    | some _, [] => .error (.unmatched c)
    | some opening, (b, start) :: opened =>
      if b = opening then .ok opened
      else .error (.mismatched c b (if start = line then none else some start))

structure Cursor where
  rest : Text
  line : Nat
  opened : List (Char × Nat)
  columns : List (Nat × Nat)
deriving DecidableEq, Repr

def readToken (c : Cursor) : Except Problem (Lexeme × Cursor) :=
  match c.rest with
  | [] => .ok (.finish, c)
  | h :: t =>
    let plain (r : Except Problem (Lexeme × Text)) : Except Problem (Lexeme × Cursor) :=
      r.map (fun (l, rest) => (l, { c with rest := rest, line := c.line + l.lineEnds }))
    if Text.isDigit h || (h == '.' && t.head?.any Text.isDigit) then plain (readNumber c.rest)
    else if h == '"' || h == '\'' then plain (readText c.line [] h t)
    else if isNameChar h then plain (readWord c.line c.rest)
    else
      match longMarks.find? (·.isPrefixOf c.rest) with
      | some mark => .ok (.mark mark, { c with rest := c.rest.drop mark.length })
      | none => do
        let opened ← nest c.line c.opened h
        if Text.isPrintable h then return (.mark [h], { c with rest := t, opened := opened })
        else throw (.badCharacter h)

def isSpace (c : Char) : Bool := c == ' ' || c == '\t' || c == '\x0c'

/-- The text behind the blanks at the start of a line, the number of further lines to which a
backslash continues it, and the columns that the blanks reach: a wide tab goes to the next multiple
of eight, a narrow one counts one, and a form feed goes back to the start. The first line that
reaches a column keeps it for those that continue it. -/
def indentation : (wide narrow kept lines : Nat) → Text → Except Problem ((Nat × Nat) × Nat × Text)
  | wide, narrow, kept, lines, ' ' :: s => indentation (wide + 1) (narrow + 1) kept lines s
  | wide, narrow, kept, lines, '\t' :: s =>
    indentation ((wide / 8 + 1) * 8) (narrow + 1) kept lines s
  | _, _, kept, lines, '\x0c' :: s => indentation 0 0 kept lines s
  | wide, narrow, kept, lines, '\\' :: '\n' :: c :: s =>
    indentation wide narrow (if kept = 0 then wide else kept) (lines + 1) (c :: s)
  | _, _, _, _, ['\\', '\n'] => .error .nothingBehindBackslash
  | _, _, _, _, '\\' :: _ => .error .strayBackslash
  | wide, narrow, kept, lines, s =>
    .ok (if kept = 0 then (wide, narrow) else (kept, kept), lines, s)

def outdent (column : Nat) : List (Nat × Nat) → List (Nat × Nat) × Nat
  | c :: d :: cs =>
    if column < c.1 then ((outdent column (d :: cs)).1, (outdent column (d :: cs)).2 + 1)
    else (c :: d :: cs, 0)
  | cs => (cs, 0)

def indentTokens (columns : List (Nat × Nat)) (column : Nat × Nat) :
    Except Problem (List Lexeme × List (Nat × Nat)) :=
  let current := columns.headD (0, 0)
  if column.1 = current.1 then
    if column.2 = current.2 then .ok ([], columns) else .error .mixedIndent
  else if current.1 < column.1 then
    if 100 ≤ columns.length then .error .deepIndent
    else if column.2 ≤ current.2 then .error .mixedIndent
    else .ok ([.indent], column :: columns)
  else
    let (columns, count) := outdent column.1 columns
    if (columns.headD (0, 0)).1 ≠ column.1 then .error .unevenIndent
    else if (columns.headD (0, 0)).2 ≠ column.2 then .error .mixedIndent
    else .ok (List.replicate count .dedent, columns)

namespace Cursor

def token (c : Cursor) (line : Nat) (l : Lexeme) : Token := ⟨l, line, c.opened.length⟩

def stop (c : Cursor) (ending : Ending) : Tokens := ⟨[], ending, c.opened⟩

def stopAtEnd (c : Cursor) (p : Problem) : Tokens :=
  match p, c.opened with
  | .nothingBehindBackslash, (b, _) :: _ => c.stop (.stopped (.unclosed b))
  | p, _ => c.stop (.stopped p)

end Cursor

def Tokens.behind (ts : List Token) (rest : Tokens) : Tokens :=
  { rest with tokens := ts ++ rest.tokens }

mutual

def lineTokens : Nat → Cursor → Tokens
  | 0, c => c.stop .complete
  | fuel + 1, c =>
    match indentation 0 0 0 0 c.rest with
    | .error p => c.stopAtEnd p
    | .ok (column, lines, rest) =>
      let c := { c with rest := rest, line := c.line + lines }
      let isBlank := rest.head? = some '#' ∨ rest.head? = some '\n'
      if isBlank ∨ !c.opened.isEmpty then tokensFrom fuel isBlank c
      else
        match indentTokens c.columns column with
        | .error p => c.stop (.stopped p)
        | .ok (lexemes, columns) =>
          let c := { c with columns := columns }
          (tokensFrom fuel false c).behind (lexemes.map (c.token c.line))

def tokensFrom : Nat → (isBlank : Bool) → Cursor → Tokens
  | 0, _, c => c.stop .complete
  | fuel + 1, isBlank, c =>
    let rest := c.rest.dropWhile isSpace
    let rest := if rest.head? = some '#' then rest.dropWhile (· != '\n') else rest
    let c := { c with rest := rest }
    match rest with
    | [] =>
      match c.opened with
      | (b, _) :: _ => c.stop (.stopped (.unclosed b))
      | [] => ⟨[c.token c.line .finish], .complete, []⟩
    | '\n' :: s =>
      let next := { c with rest := s, line := if s.isEmpty then c.line else c.line + 1 }
      if isBlank ∨ !c.opened.isEmpty then lineTokens fuel next
      else (lineTokens fuel next).behind [c.token c.line .lineEnd]
    | '\\' :: '\n' :: s =>
      if s.isEmpty then c.stopAtEnd .nothingBehindBackslash
      else tokensFrom fuel isBlank { c with rest := s, line := c.line + 1 }
    | '\\' :: _ => c.stop (.stopped .strayBackslash)
    | _ =>
      match readToken c with
      | .error p => c.stop (.refused p)
      | .ok (lexeme, next) =>
        (tokensFrom fuel isBlank next).behind [next.token c.line lexeme]

end

def tokens (s : Text) : Tokens := lineTokens (2 * s.length + 2) ⟨s, 1, [], [(0, 0)]⟩

end CommentTags.Expression
