import CommentTags.Json
import CommentTags.Decimal

/-!
Reading JSON text. A reader takes what is left of the text and returns a value with what is left
after it; a fault remembers how much was left where it lies.
-/

namespace CommentTags.Json

inductive Problem where
  | valueExpected
  | nameExpected
  | colonExpected
  | commaExpected
  | extraData
  | unterminatedString
  | controlCharacter
  | badEscape
  | badUnitEscape
  | byteOrderMark
deriving DecidableEq, Repr

def Problem.message : Problem → Text
  | .valueExpected => "Expecting value".toList
  | .nameExpected => "Expecting property name enclosed in double quotes".toList
  | .colonExpected => "Expecting ':' delimiter".toList
  | .commaExpected => "Expecting ',' delimiter".toList
  | .extraData => "Extra data".toList
  | .unterminatedString => "Unterminated string starting at".toList
  | .controlCharacter => "Invalid control character at".toList
  | .badEscape => "Invalid \\escape".toList
  | .badUnitEscape => "Invalid \\uXXXX escape".toList
  | .byteOrderMark => "Unexpected UTF-8 BOM (decode using utf-8-sig)".toList

inductive Container where
  | list
  | object
deriving DecidableEq, Repr

def Container.name : Container → Text
  | .list => "array".toList
  | .object => "object".toList

inductive Fault where
  | malformed (problem : Problem) (left : Nat)
  | hugeInteger (digits : Nat)
  | tooDeep (container : Container)
deriving DecidableEq, Repr

/-- The room for containers in one another, if nothing else is known about the stack of calls. -/
def usualRoom : Nat := 988

def isSpace (c : Char) : Bool := c == ' ' || c == '\t' || c == '\n' || c == '\r'

def skipSpace (s : Text) : Text := s.dropWhile isSpace

def unit? (a b c d : Char) : Option Nat := do
  let a ← Text.hexDigit? a
  let b ← Text.hexDigit? b
  let c ← Text.hexDigit? c
  let d ← Text.hexDigit? d
  return ((a * 16 + b) * 16 + c) * 16 + d

def unescape? : Char → Option Char
  | '"' => some '"'
  | '\\' => some '\\'
  | '/' => some '/'
  | 'b' => some '\x08'
  | 'f' => some '\x0c'
  | 'n' => some '\n'
  | 'r' => some '\r'
  | 't' => some '\t'
  | _ => none

/-- Characters from code points and 16-bit units; a unit without its partner is replaced. -/
def ofUnits : List Nat → Text
  | [] => []
  | [u] => [Char.ofNat (if 0xD800 ≤ u ∧ u ≤ 0xDFFF then 0xFFFD else u)]
  | u :: v :: us =>
    if 0xD800 ≤ u ∧ u ≤ 0xDBFF ∧ 0xDC00 ≤ v ∧ v ≤ 0xDFFF then
      Char.ofNat (0x10000 + (u - 0xD800) * 0x400 + (v - 0xDC00)) :: ofUnits us
    else
      Char.ofNat (if 0xD800 ≤ u ∧ u ≤ 0xDFFF then 0xFFFD else u) :: ofUnits (v :: us)

def stringUnits (start : Nat) : Text → Except Fault (List Nat × Text)
  | [] => .error (.malformed .unterminatedString start)
  | '"' :: s => .ok ([], s)
  | ['\\'] => .error (.malformed .unterminatedString start)
  | '\\' :: 'u' :: a :: b :: c :: d :: e :: s =>
    match unit? a b c d with
    | none => .error (.malformed .badUnitEscape (s.length + 6))
    | some u => (stringUnits start (e :: s)).map (fun r => (u :: r.1, r.2))
  | '\\' :: 'u' :: s => .error (.malformed .badUnitEscape (s.length + 1))
  | '\\' :: c :: s =>
    match unescape? c with
    | none => .error (.malformed .badEscape (s.length + 2))
    | some c => (stringUnits start s).map (fun r => (c.toNat :: r.1, r.2))
  | c :: s =>
    if c.toNat < 0x20 then .error (.malformed .controlCharacter (s.length + 1))
    else (stringUnits start s).map (fun r => (c.toNat :: r.1, r.2))

def readString (s : Text) : Except Fault (Text × Text) :=
  (stringUnits (s.length + 1) s).map (fun r => (ofUnits r.1, r.2))

def fraction? : Text → Option (Text × Text)
  | '.' :: s =>
    let ds := s.takeWhile Text.isDigit
    if ds.isEmpty then none else some (ds, s.dropWhile Text.isDigit)
  | _ => none

def signed (s : Text) : Bool × Text :=
  match s with
  | '-' :: s => (true, s)
  | '+' :: s => (false, s)
  | s => (false, s)

def exponent? : Text → Option (Int × Text)
  | c :: s =>
    if c = 'e' ∨ c = 'E' then
      let (negative, s) := signed s
      let ds := s.takeWhile Text.isDigit
      let n : Int := Text.digitsValue ds
      if ds.isEmpty then none else some (if negative then -n else n, s.dropWhile Text.isDigit)
    else none
  | [] => none

def wholeDigits (s : Text) : Text :=
  match s with
  | '0' :: _ => ['0']
  | s => s.takeWhile Text.isDigit

def readNumber (s : Text) : Except Fault (Json × Text) :=
  let (negative, body) :=
    match s with
    | '-' :: t => (true, t)
    | t => (false, t)
  let whole := wholeDigits body
  if whole.isEmpty then .error (.malformed .valueExpected s.length)
  else
    let rest := body.drop whole.length
    let (frac, rest) := (fraction? rest).getD ([], rest)
    let power := exponent? rest
    let rest := (power.map (·.2)).getD rest
    if frac.isEmpty ∧ power.isNone then
      if Text.digitLimit < whole.length then .error (.hugeInteger whole.length)
      else
        let n : Int := Text.digitsValue whole
        .ok (.int (if negative then -n else n), rest)
    else
      let x := Decimal.read (Text.digitsValue (whole ++ frac))
        ((power.map (·.1)).getD 0 - frac.length)
      .ok (.real (if negative then -x else x), rest)

def literal? (s : Text) : Option (Json × Text) :=
  let words : List (String × Json) :=
    [("null", .null), ("true", .bool true), ("false", .bool false), ("NaN", .real (0.0 / 0.0)),
      ("Infinity", .real (1.0 / 0.0)), ("-Infinity", .real (-1.0 / 0.0))]
  words.findSome? (fun w =>
    if w.1.toList.isPrefixOf s then some (w.2, s.drop w.1.length) else none)

mutual

/-- A value at the start of the text, below so many more containers. The fuel bounds the depth of
the recursion; twice the length of the text is enough. -/
def readValue : (fuel depth : Nat) → Text → Except Fault (Json × Text)
  | 0, _, s => .error (.malformed .valueExpected s.length)
  | fuel + 1, depth, s =>
    match s, depth with
    | '"' :: r, _ => (readString r).map (fun r => (.text r.1, r.2))
    | '[' :: _, 0 => .error (.tooDeep .list)
    | '[' :: r, depth + 1 =>
      match skipSpace r with
      | ']' :: r => .ok (.list [], r)
      | r => (readItems fuel depth r).map (fun r => (.list r.1, r.2))
    | '{' :: _, 0 => .error (.tooDeep .object)
    | '{' :: r, depth + 1 =>
      match skipSpace r with
      | '}' :: r => .ok (.object [], r)
      | r => (readMembers fuel depth r).map (fun r => (.ofMembers r.1, r.2))
    | s, _ => ((literal? s).map Except.ok).getD (readNumber s)

def readItems : (fuel depth : Nat) → Text → Except Fault (List Json × Text)
  | 0, _, s => .error (.malformed .valueExpected s.length)
  | fuel + 1, depth, s => do
    let (x, r) ← readValue fuel depth s
    match skipSpace r with
    | ']' :: r => return ([x], r)
    | ',' :: r =>
      let (xs, r) ← readItems fuel depth (skipSpace r)
      return (x :: xs, r)
    | r => .error (.malformed .commaExpected r.length)

def readMembers : (fuel depth : Nat) → Text → Except Fault (List (Text × Json) × Text)
  | 0, _, s => .error (.malformed .nameExpected s.length)
  | fuel + 1, depth, s =>
    match s with
    | '"' :: r => do
      let (key, r) ← readString r
      match skipSpace r with
      | ':' :: r =>
        let (value, r) ← readValue fuel depth (skipSpace r)
        match skipSpace r with
        | '}' :: r => return ([(key, value)], r)
        | ',' :: r =>
          let (members, r) ← readMembers fuel depth (skipSpace r)
          return ((key, value) :: members, r)
        | r => .error (.malformed .commaExpected r.length)
      | r => .error (.malformed .colonExpected r.length)
    | s => .error (.malformed .nameExpected s.length)

end

def parse (s : Text) (room : Nat := usualRoom) : Except Fault Json :=
  match s with
  | '\uFEFF' :: _ => .error (.malformed .byteOrderMark s.length)
  | _ => do
    let (value, rest) ← readValue (2 * s.length + 2) room (skipSpace s)
    match skipSpace rest with
    | [] => return value
    | r => .error (.malformed .extraData r.length)

def lineAndColumn (s : Text) (position : Nat) : Nat × Nat :=
  let before := s.take position
  (before.count '\n' + 1, (before.reverse.takeWhile (· != '\n')).length + 1)

def Fault.message (s : Text) : Fault → Text
  | .malformed problem left =>
    let position := s.length - left
    let (line, column) := lineAndColumn s position
    problem.message ++ ": line ".toList ++ Text.ofNat line ++ " column ".toList ++
      Text.ofNat column ++ " (char ".toList ++ Text.ofNat position ++ ")".toList
  | .hugeInteger digits => Text.tooManyDigits digits
  | .tooDeep container =>
    "maximum recursion depth exceeded while decoding a JSON ".toList ++ container.name ++
      " from a unicode string".toList

end CommentTags.Json
