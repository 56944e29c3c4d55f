import CommentTags.Json
import CommentTags.Decimal

/-!
JSON text in ASCII, on one line or indented. Not every value is written: an integer can have too
many digits, and values can lie too deep in one another for the room that is left for them.
-/

namespace CommentTags.Json

def escapeLetter? : Char → Option Char
  | '"' => some '"'
  | '\\' => some '\\'
  | '\n' => some 'n'
  | '\r' => some 'r'
  | '\t' => some 't'
  | '\x08' => some 'b'
  | '\x0c' => some 'f'
  | _ => none

def unitsOf (c : Char) : List Nat :=
  let n := c.toNat
  if n < 0x10000 then [n] else [0xD800 + (n - 0x10000) / 0x400, 0xDC00 + (n - 0x10000) % 0x400]

def unitEscape (n : Nat) : Text := '\\' :: 'u' :: Text.hex 4 n

def stringChar (c : Char) : Text :=
  match escapeLetter? c with
  | some l => ['\\', l]
  | none =>
    if 0x20 ≤ c.toNat ∧ c.toNat ≤ 0x7E then [c] else (unitsOf c).flatMap unitEscape

def stringText (s : Text) : Text :=
  '"' :: (s.flatMap stringChar ++ ['"'])

def realText (x : Float) : Text :=
  if x.isNaN then "NaN".toList
  else if x.isInf then (if x < 0 then "-Infinity".toList else "Infinity".toList)
  else Decimal.ofFinite x

inductive Layout where
  | oneLine
  | indented (width : Nat)

namespace Layout

def newLine : Layout → Nat → Text
  | .oneLine, _ => []
  | .indented width, depth => '\n' :: List.replicate (width * depth) ' '

def separator : Layout → Nat → Text
  | .oneLine, _ => ", ".toList
  | .indented width, depth => ',' :: newLine (.indented width) depth

end Layout

mutual

def write (layout : Layout) (depth : Nat) : Json → Text
  | .null => "null".toList
  | .bool true => "true".toList
  | .bool false => "false".toList
  | .int n => Text.ofInt n
  | .real x => realText x
  | .text s => stringText s
  | .list [] => "[]".toList
  | .list (x :: xs) =>
    '[' :: (layout.newLine (depth + 1) ++ write layout (depth + 1) x ++
      writeItems layout (depth + 1) xs ++ layout.newLine depth ++ [']'])
  | .object [] => "\x7b\x7d".toList
  | .object ((k, v) :: members) =>
    '{' :: (layout.newLine (depth + 1) ++ stringText k ++ ": ".toList ++
      write layout (depth + 1) v ++ writeMembers layout (depth + 1) members ++
      layout.newLine depth ++ ['}'])

def writeItems (layout : Layout) (depth : Nat) : List Json → Text
  | [] => []
  | x :: xs => layout.separator depth ++ write layout depth x ++ writeItems layout depth xs

def writeMembers (layout : Layout) (depth : Nat) : List (Text × Json) → Text
  | [] => []
  | (k, v) :: members =>
    layout.separator depth ++ stringText k ++ ": ".toList ++ write layout depth v ++
      writeMembers layout depth members

end

def line (j : Json) : Text := write .oneLine 0 j

def page (j : Json) : Text := write (.indented 2) 0 j

inductive Obstacle where
  | hugeInteger
  | tooDeep
deriving DecidableEq, Repr

def Obstacle.kind : Obstacle → Text
  | .hugeInteger => "ValueError".toList
  | .tooDeep => "RecursionError".toList

def Obstacle.message : Obstacle → Text
  | .hugeInteger =>
    "Exceeds the limit (".toList ++ Text.ofNat Text.digitLimit ++
      (" digits) for integer string conversion; " ++
        "use sys.set_int_max_str_digits() to increase the limit").toList
  | .tooDeep => "maximum recursion depth exceeded while encoding a JSON object".toList

mutual

/-- The first obstacle to writing a value, where so many containers may lie in one another. -/
def obstacle? : (room : Nat) → Json → Option Obstacle
  | _, .int n => if Text.digitLimit < (Text.ofNat n.natAbs).length then some .hugeInteger else none
  | 0, .list _ => some .tooDeep
  | room + 1, .list xs => itemObstacle? room xs
  | 0, .object _ => some .tooDeep
  | room + 1, .object members => memberObstacle? room members
  | _, _ => none

def itemObstacle? (room : Nat) : List Json → Option Obstacle
  | [] => none
  | x :: xs => (obstacle? room x).or (itemObstacle? room xs)

def memberObstacle? (room : Nat) : List (Text × Json) → Option Obstacle
  | [] => none
  | (_, v) :: members => (obstacle? room v).or (memberObstacle? room members)

end

def serialize (room : Nat) (j : Json) : Except Obstacle Text :=
  match j.obstacle? room with
  | some obstacle => .error obstacle
  | none => .ok j.line

end CommentTags.Json
