namespace CommentTags

/-- Text is a list of Unicode scalar values. -/
abbrev Text := List Char

namespace Text

/-- Conditions on the characters of a text are decided along the text, not for all characters. -/
instance decidableForallMem (s : Text) (p : Char → Prop) [DecidablePred p] :
    Decidable (∀ c ∈ s, p c) :=
  List.decidableBAll p s

def isBlank (c : Char) : Bool :=
  let n := c.toNat
  (0x09 ≤ n && n ≤ 0x0D) || (0x1C ≤ n && n ≤ 0x20) || n == 0x85 || n == 0xA0 || n == 0x1680 ||
    (0x2000 ≤ n && n ≤ 0x200A) || n == 0x2028 || n == 0x2029 || n == 0x202F || n == 0x205F ||
    n == 0x3000

def dropEndWhile (p : Char → Bool) (s : Text) : Text :=
  (s.reverse.dropWhile p).reverse

theorem dropEndWhile_append_of_pos (p : Char → Bool) (s : Text) (c : Char) (h : p c = true) :
    dropEndWhile p (s ++ [c]) = dropEndWhile p s := by
  simp [dropEndWhile, h]

def trim (s : Text) : Text :=
  dropEndWhile isBlank (s.dropWhile isBlank)

def dropLineEnd (s : Text) : Text :=
  dropEndWhile (fun c => c == '\r' || c == '\n') s

def consFirst (c : Char) : List Text → List Text
  | [] => [[c]]
  | w :: ws => (c :: w) :: ws

def startsBlank : Text → Bool
  | [] => true
  | c :: _ => isBlank c

def fields : Text → List Text
  | [] => []
  | c :: s =>
    if isBlank c then fields s
    else if startsBlank s then [c] :: fields s
    else consFirst c (fields s)

theorem fields_blank (c : Char) (s : Text) (h : isBlank c = true) : fields (c :: s) = fields s := by
  simp [fields, h]

def spaced (fs : List Text) : Text :=
  [' '].intercalate fs

def splitOn (d : Char) : Text → List Text
  | [] => [[]]
  | c :: s => if c = d then [] :: splitOn d s else consFirst c (splitOn d s)

def lines : Text → List Text
  | [] => []
  | c :: s => if c = '\n' then ['\n'] :: lines s else consFirst c (lines s)

def unifyLineEnds : Text → Text
  | [] => []
  | '\r' :: '\n' :: s => '\n' :: unifyLineEnds s
  | '\r' :: s => '\n' :: unifyLineEnds s
  | c :: s => c :: unifyLineEnds s

def isDigit (c : Char) : Bool := '0' ≤ c && c ≤ '9'

def digitsValue (ds : Text) : Nat := ds.foldl (fun n c => n * 10 + (c.toNat - 48)) 0

def hexDigit? (c : Char) : Option Nat :=
  if isDigit c then some (c.toNat - 48)
  else if 'a' ≤ c ∧ c ≤ 'f' then some (c.toNat - 87)
  else if 'A' ≤ c ∧ c ≤ 'F' then some (c.toNat - 55)
  else none

def isHexDigit (c : Char) : Bool := (hexDigit? c).isSome

def hexValue (ds : Text) : Nat := ds.foldl (fun n c => n * 16 + (hexDigit? c).getD 0) 0

def ofNat (n : Nat) : Text := Nat.toDigits 10 n

def ofInt : Int → Text
  | .ofNat n => ofNat n
  | .negSucc n => '-' :: ofNat (n + 1)

/-- Whole numbers with more digits are not read. -/
def digitLimit : Nat := 4300

def tooManyDigits (count : Nat) : Text :=
  "Exceeds the limit (".toList ++ ofNat digitLimit ++
    " digits) for integer string conversion: value has ".toList ++ ofNat count ++
    " digits; use sys.set_int_max_str_digits() to increase the limit".toList

def hex (width n : Nat) : Text :=
  let ds := Nat.toDigits 16 n
  List.replicate (width - ds.length) '0' ++ ds

def cut (d : Char) : Text → Text × Option Text
  | [] => ([], none)
  | c :: s => if c = d then ([], some s) else (c :: (cut d s).1, (cut d s).2)

end Text

end CommentTags
