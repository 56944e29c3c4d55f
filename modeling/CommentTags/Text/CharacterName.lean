import CommentTags.Text.CharacterNames
import CommentTags.Text.Letters

/-!
What is the name of a character, as of Unicode 14. Ideographs are named by their code points and
Hangul syllables by their sounds; every other name is in a list, where the case of its letters does
not matter.
-/

namespace CommentTags.Text

def ideographRanges : List (Nat × Nat) :=
  [(0x3400, 0x4DBF), (0x4E00, 0x9FFF), (0x20000, 0x2A6DF), (0x2A700, 0x2B738),
   (0x2B740, 0x2B81D), (0x2B820, 0x2CEA1), (0x2CEB0, 0x2EBE0), (0x30000, 0x3134A)]

def isIdeograph (digits : Text) : Bool :=
  (digits.length == 4 || digits.length == 5) &&
    digits.all (fun c => isHexDigit c && !('a' ≤ c && c ≤ 'f')) &&
    ideographRanges.any (fun r => r.1 ≤ hexValue digits && hexValue digits ≤ r.2)

def leadingSounds : List String :=
  ["G", "GG", "N", "D", "DD", "R", "M", "B", "BB", "S", "SS", "", "J", "JJ", "C", "K", "T", "P",
   "H"]

def vowels : List String :=
  ["A", "AE", "YA", "YAE", "EO", "E", "YEO", "YE", "O", "WA", "WAE", "OE", "YO", "U", "WEO", "WE",
   "WI", "YU", "EU", "YI", "I"]

def trailingSounds : List String :=
  ["", "G", "GG", "GS", "N", "NJ", "NH", "D", "L", "LG", "LM", "LB", "LS", "LT", "LP", "LH", "M",
   "B", "BS", "S", "SS", "NG", "J", "C", "K", "T", "P", "H"]

def afterSound? (sounds : List String) (s : Text) : Option Text :=
  let heard := (sounds.map String.toList).filter (·.isPrefixOf s)
  (heard.map List.length).max?.map (s.drop ·)

def isSyllable (s : Text) : Bool :=
  ((afterSound? leadingSounds s).bind (afterSound? vowels)).bind (afterSound? trailingSounds) =
    some []

def isSmall (c : Char) : Bool := 'a' ≤ c && c ≤ 'z'

def namesBehind (last : Text) : List Text → List Text
  | [] => []
  | entry :: entries =>
    let shared := (entry.takeWhile isSmall).foldl (fun n c => n + (c.toNat - 97)) 0
    let name := last.take shared ++ entry.dropWhile isSmall
    name :: namesBehind name entries

def isNameAmong (name last : Text) : List String → Bool
  | [] => false
  | line :: lines =>
    let entries := line.toList.splitBy (fun c d => isSmall c || !isSmall d)
    let names := namesBehind last entries
    names.contains name || isNameAmong name (names.getLastD last) lines

def isCharacterName (s : Text) : Bool :=
  let ideograph := "CJK UNIFIED IDEOGRAPH-".toList
  let syllable := "HANGUL SYLLABLE ".toList
  if ideograph.isPrefixOf s then isIdeograph (s.drop ideograph.length)
  else if syllable.isPrefixOf s then isSyllable (s.drop syllable.length)
  else isNameAmong (s.map Char.toUpper) [] characterNameLines

end CommentTags.Text
