import CommentTags.Expression.Tree
import CommentTags.Text.CharacterName

namespace CommentTags.Expression

def escapedWidth (c : Char) : Nat := if c.toNat < 0x80 then 1 else 10

def escapedLength (s : Text) : Nat := s.foldl (fun n c => n + escapedWidth c) 0

def hexProblem? (position count : Nat) (short : EscapeProblem) (s : Text) : Option Problem :=
  let digits := (s.take count).takeWhile Text.isHexDigit
  if digits.length < count then some (.badEscape position (position + 1 + digits.length) short)
  else if 0x10FFFF < Text.hexValue digits then
    some (.badEscape position (position + 1 + count) .noCharacter)
  else none

def nameProblem? (position : Nat) : Text → Option Problem
  | '\x7b' :: s =>
    let name := s.takeWhile (· != '\x7d')
    let last := position + 2 + escapedLength name
    if name.length = s.length then some (.badEscape position last .badName)
    else if name.isEmpty then some (.badEscape position last .badName)
    else if Text.isCharacterName name then none
    else some (.badEscape position (last + 1) .unknownName)
  | _ => some (.badEscape position (position + 1) .badName)

def escapeProblem? (position : Nat) : Text → Option Problem
  | [] => none
  | '\\' :: c :: s =>
    if 0x80 ≤ c.toNat then escapeProblem? (position + 6 + escapedWidth c) s
    else
      let problem :=
        match c with
        | 'x' => hexProblem? position 2 .shortHex s
        | 'u' => hexProblem? position 4 .shortUnicode s
        | 'U' => hexProblem? position 8 .shortLongUnicode s
        | 'N' => nameProblem? position s
        | _ => none
      problem <|> escapeProblem? (position + 2) s
  | c :: s => escapeProblem? (position + escapedWidth c) s

def byteProblem? (position : Nat) : Text → Option Problem
  | [] => none
  | '\\' :: c :: s =>
    let digits := (s.take 2).takeWhile Text.isHexDigit
    if c = 'x' ∧ digits.length < 2 then some (.badByteEscape position)
    else byteProblem? (position + 2) s
  | _ :: s => byteProblem? (position + 1) s

structure LiteralPart where
  text : Text
  isDoubled : Bool
  rest : Text
deriving DecidableEq, Repr

def LiteralPart.before (s : Text) (p : LiteralPart) : LiteralPart := { p with text := s ++ p.text }

def readLiteral (isRaw isNested : Bool) : Nat → Text → Except Problem LiteralPart
  | 0, s => .ok ⟨[], false, s⟩
  | _ + 1, [] => .ok ⟨[], false, []⟩
  | fuel + 1, c :: s =>
    let go (read rest : Text) := (readLiteral isRaw isNested fuel rest).map (·.before read)
    let atBrace (before : Text) (b : Char) (s : Text) : Except Problem LiteralPart :=
      if !isNested && s.head? == some b then .ok ⟨before ++ [b], true, s.drop 1⟩
      else if !isNested && b == '\x7d' then .error (.field .loneBrace)
      else .ok ⟨before, false, b :: s⟩
    if c = '\x7b' ∨ c = '\x7d' then atBrace [] c s
    else if c = '\\' ∧ !isRaw then
      match s with
      | [] => go [c] []
      | 'N' :: '\x7b' :: s =>
        let name := s.takeWhile (· != '\x7d')
        let rest := s.drop name.length
        go ('\\' :: 'N' :: '\x7b' :: name ++ rest.take 1) (rest.drop 1)
      | 'N' :: s => go ('\\' :: 'N' :: s.take 1) (s.drop 1)
      | d :: s => if d = '\x7b' ∨ d = '\x7d' then atBrace [c] d s else go [c, d] s
    else go [c] s

def readField (quote : Option (Char × Bool)) (opened : List Char) :
    Nat → Text → Except FieldProblem (Text × Text)
  | 0, s => .ok ([], s)
  | _ + 1, [] =>
    match quote, opened with
    | some _, _ => .error .openText
    | none, b :: _ => .error (.unmatched b)
    | none, [] => .ok ([], [])
  | fuel + 1, c :: s =>
    let go (quote : Option (Char × Bool)) (opened : List Char) (read rest : Text) :=
      (readField quote opened fuel rest).map (fun (e, rest) => (read ++ e, rest))
    let isTripled := [c, c].isPrefixOf s
    if c = '\\' then .error .backslash
    else
      match quote with
      | some (q, tripled) =>
        if c = q ∧ !tripled then go none opened [c] s
        else if c = q ∧ isTripled then go none opened [c, c, c] (s.drop 2)
        else go quote opened [c] s
      | none =>
        if c = '\'' ∨ c = '"' then
          if isTripled then go (some (c, true)) opened [c, c, c] (s.drop 2)
          else go (some (c, false)) opened [c] s
        else if opens c then
          if 200 ≤ opened.length then .error .tooManyBrackets else go none (c :: opened) [c] s
        else if c = '#' then .error .comment
        else if opened.isEmpty ∧ "!=<>".toList.contains c ∧ s.head? = some '=' then
          go none opened [c, '='] (s.drop 1)
        else if opened.isEmpty ∧ "!:\x7d=".toList.contains c then .ok ([], c :: s)
        else
          match closes c, opened with
          | none, _ => go none opened [c] s
          | some _, [] => .error (.unmatched c)
          | some opening, b :: bs =>
            if b = opening then go none bs [c] s else .error (.mismatched c b)

structure FieldReader where
  told : Problem → Problem
  problem? : Text → Option Problem

namespace FieldReader

def readConversion (r : FieldReader) : Text → Except Problem Text
  | '!' :: s =>
    match s with
    | [] => .error (r.told (.field .braceExpected))
    | c :: s =>
      if c = 's' ∨ c = 'r' ∨ c = 'a' then .ok s else .error (r.told (.field .badConversion))
  | s => .ok s

def readExpression (r : FieldReader) (s : Text) : Except Problem Text := do
  match readField none [] (s.length + 1) s with
  | .error p => throw (r.told (.field p))
  | .ok (e, rest) =>
    let isBlank := e.all (fun c => c == ' ' || c == '\t' || c == '\n' || c == '\x0c')
    match rest with
    | [] => throw (r.told (.field .braceExpected))
    | c :: behind =>
      if isBlank then
        throw (r.told (.field (if c = '\x7d' then .nothing else .nothingBefore c)))
      match r.problem? e with
      | some p => throw p
      | none => pure ()
      if c = '=' then
        let rest := behind.dropWhile (fun c => c == ' ' || ('\t' ≤ c && c ≤ '\r'))
        if rest.isEmpty then throw (r.told (.field .braceExpected))
        readConversion r rest
      else readConversion r rest

def readParts (r : FieldReader) (isRaw : Bool) : (fuel level : Nat) → Text → Except Problem Text
  | 0, _, s => .ok s
  | fuel + 1, level, s => do
    match readLiteral isRaw (level != 0) (s.length + 1) s with
    | .error p => throw (r.told p)
    | .ok part =>
      match if isRaw then none else escapeProblem? 0 part.text with
      | some p => throw (r.told p)
      | none =>
        if part.isDoubled then readParts r isRaw fuel level part.rest
        else
          match part.rest with
          | '\x7b' :: s =>
            if 2 ≤ level then throw (r.told (.field .tooDeep))
            let rest ← readExpression r s
            let rest ←
              match rest with
              | ':' :: s =>
                if s.isEmpty then throw (r.told (.field .braceExpected))
                else readParts r isRaw fuel (level + 1) s
              | rest => pure rest
            match rest with
            | '\x7d' :: s => readParts r isRaw fuel level s
            | _ => throw (r.told (.field .braceExpected))
          | rest =>
            if level != 0 && rest.isEmpty then throw (r.told (.field .braceExpected))
            else return rest

def read (r : FieldReader) (letters body : Text) : Except Problem Tree := do
  let letters := letters.map Char.toLower
  let isRaw := letters.contains 'r'
  if letters.contains 'f' then
    discard (readParts r isRaw (body.length + 1) 0 body)
    return .node .formatted []
  else if letters.contains 'b' then
    if body.any (fun c => 0x80 ≤ c.toNat) then throw (r.told .wideBytes)
    match if isRaw then none else byteProblem? 0 body with
    | some p => throw (r.told p)
    | none => return .constant .bytes
  else
    match if isRaw then none else escapeProblem? 0 body with
    | some p => throw (r.told p)
    | none => return .constant .text

def isBytes : Tree → Bool
  | .constant .bytes => true
  | _ => false

def joinTo (r : FieldReader) (sofar : Tree) : List (Text × Text) → Except Problem Tree
  | [] => .ok sofar
  | (letters, body) :: texts => do
    let isFormatted := (letters.map Char.toLower).contains 'f'
    let isMixed := isBytes sofar != (letters.map Char.toLower).contains 'b'
    if isMixed && isFormatted then throw (r.told .mixedTexts)
    let next ← r.read letters body
    if isMixed then throw (r.told .mixedTexts)
    match sofar with
    | .node _ _ => r.joinTo sofar texts
    | _ => r.joinTo next texts

def join (r : FieldReader) : List (Text × Text) → Except Problem Tree
  | [] => .ok .nothing
  | (letters, body) :: texts => do r.joinTo (← r.read letters body) texts

end FieldReader

end CommentTags.Expression
