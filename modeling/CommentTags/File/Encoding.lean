import CommentTags.Text

namespace CommentTags

inductive Encoding where
  | utf8
  | utf8Marked
  | ascii
  | latin1
  | windows1252
  /-- A byte order mark at the start decides, and has to be there. -/
  | utf16
  | utf16Little
  | utf16Big
deriving DecidableEq, Repr

namespace Encoding

def tidyName (name : Text) : Text :=
  let kept (c : Char) : Bool := c.isAlphanum || c == '.'
  let pieces := Text.fields (name.map (fun c => if kept c then c.toLower else ' '))
  ['_'].intercalate pieces

def names : List (Encoding × String × List String) :=
  [(.utf8, "utf_8", ["u8", "utf", "utf8", "utf8_ucs2", "utf8_ucs4", "cp65001"]),
    (.utf8Marked, "utf_8_sig", []),
    (.ascii, "ascii", ["646", "ansi_x3.4_1968", "ansi_x3_4_1968", "ansi_x3.4_1986", "cp367",
      "csascii", "ibm367", "iso646_us", "iso_646.irv_1991", "iso_ir_6", "us", "us_ascii"]),
    (.latin1, "latin_1", ["8859", "cp819", "csisolatin1", "ibm819", "iso8859", "iso8859_1",
      "iso_8859_1", "iso_8859_1_1987", "iso_ir_100", "l1", "latin", "latin1"]),
    (.windows1252, "cp1252", ["1252", "windows_1252"]),
    (.utf16, "utf_16", ["u16", "utf16"]),
    (.utf16Little, "utf_16_le", ["unicodelittleunmarked", "utf_16le"]),
    (.utf16Big, "utf_16_be", ["unicodebigunmarked", "utf_16be"])]

def ofName? (name : Text) : Option Encoding :=
  let tidy := String.ofList (tidyName name)
  let undotted := String.ofList ((tidyName name).map (fun c => if c = '.' then '_' else c))
  (names.find? (fun (_, first, others) =>
    first == tidy || others.contains tidy || others.contains undotted)).map (·.1)

def ofSystem : Encoding := .utf8

/-- The encoding that is wanted for a file: the system's has a name of its own. -/
def ofFileName? (name : Text) : Option Encoding :=
  if name = "locale".toList then some ofSystem else ofName? name

end Encoding

namespace Utf8

inductive Flaw where
  | start
  | continuation
  | truncated
deriving DecidableEq, Repr

inductive Unit where
  | char (c : Char)
  | flawed (bytes : Nat) (flaw : Flaw)
deriving DecidableEq, Repr

structure Begun where
  bits : Nat
  read : Nat
  missing : Nat
  low : Nat := 0x80
  high : Nat := 0xBF
deriving DecidableEq, Repr

def first (b : Nat) : List Unit × Option Begun :=
  if b < 0x80 then ([.char (Char.ofNat b)], none)
  else if b < 0xC2 then ([.flawed 1 .start], none)
  else if b < 0xE0 then ([], some ⟨b - 0xC0, 1, 1, 0x80, 0xBF⟩)
  else if b < 0xF0 then
    ([], some ⟨b - 0xE0, 1, 2, if b = 0xE0 then 0xA0 else 0x80, if b = 0xED then 0x9F else 0xBF⟩)
  else if b < 0xF5 then
    ([], some ⟨b - 0xF0, 1, 3, if b = 0xF0 then 0x90 else 0x80, if b = 0xF4 then 0x8F else 0xBF⟩)
  else ([.flawed 1 .start], none)

def next (begun : Option Begun) (b : Nat) : List Unit × Option Begun :=
  match begun with
  | none => first b
  | some s =>
    if s.low ≤ b ∧ b ≤ s.high then
      let bits := s.bits * 64 + (b - 0x80)
      if s.missing = 1 then ([.char (Char.ofNat bits)], none)
      else ([], some ⟨bits, s.read + 1, s.missing - 1, 0x80, 0xBF⟩)
    else
      let (units, begun) := first b
      (.flawed s.read .continuation :: units, begun)

def units : Option Begun → List UInt8 → List Unit
  | none, [] => []
  | some s, [] => [.flawed s.read .truncated]
  | begun, b :: bs => (next begun b.toNat).1 ++ units (next begun b.toNat).2 bs

def char? : Unit → Option Char
  | .char c => some c
  | .flawed .. => none

def lenient (bytes : List UInt8) : Text := (units none bytes).filterMap char?

structure IllFormed where
  byte : UInt8
  position : Nat
  count : Nat
  flaw : Flaw
deriving DecidableEq, Repr

def IllFormed.message (e : IllFormed) : Text :=
  let place := if e.count = 1 then
      " byte 0x".toList ++ Text.hex 2 e.byte.toNat ++ " in position ".toList ++
      Text.ofNat e.position
    else
      " bytes in position ".toList ++ Text.ofNat e.position ++ '-' ::
        Text.ofNat (e.position + e.count - 1)
  let why := match e.flaw with
    | .start => "invalid start byte"
    | .continuation => "invalid continuation byte"
    | .truncated => "unexpected end of data"
  "'utf-8' codec can't decode".toList ++ place ++ ": ".toList ++ why.toList

def strictFrom (position : Nat) : List Unit → Except (Nat × Nat × Flaw) Text
  | [] => .ok []
  | .char c :: us => (strictFrom (position + c.utf8Size) us).map (c :: ·)
  | .flawed count flaw :: _ => .error (position, count, flaw)

def strict (bytes : List UInt8) : Except IllFormed Text :=
  (strictFrom 0 (units none bytes)).mapError
    (fun e => ⟨bytes[e.1]?.getD 0, e.1, e.2.1, e.2.2⟩)

def encode (s : Text) : List UInt8 := s.flatMap String.utf8EncodeChar

end Utf8

namespace Encoding

def windowsChars : List Nat :=
  [0x20AC, 0, 0x201A, 0x0192, 0x201E, 0x2026, 0x2020, 0x2021, 0x02C6, 0x2030, 0x0160, 0x2039,
    0x0152, 0, 0x017D, 0, 0, 0x2018, 0x2019, 0x201C, 0x201D, 0x2022, 0x2013, 0x2014, 0x02DC,
    0x2122, 0x0161, 0x203A, 0x0153, 0, 0x017E, 0x0178]

def windowsChar? (b : UInt8) : Option Char :=
  let n := b.toNat
  if n < 0x80 ∨ 0xA0 ≤ n then some (Char.ofNat n)
  else
    match windowsChars[n - 0x80]? with
    | some (c + 1) => some (Char.ofNat (c + 1))
    | _ => none

def units16 (big : Bool) : List UInt8 → List Nat
  | a :: b :: bs =>
    (if big then a.toNat * 256 + b.toNat else b.toNat * 256 + a.toNat) :: units16 big bs
  | _ => []

def chars16 : List Nat → Text
  | [] => []
  | [u] => if 0xD800 ≤ u ∧ u ≤ 0xDFFF then [] else [Char.ofNat u]
  | u :: v :: us =>
    if 0xD800 ≤ u ∧ u ≤ 0xDBFF then
      if 0xDC00 ≤ v ∧ v ≤ 0xDFFF then
        Char.ofNat (0x10000 + (u - 0xD800) * 0x400 + (v - 0xDC00)) :: chars16 us
      else chars16 (v :: us)
    else if 0xDC00 ≤ u ∧ u ≤ 0xDFFF then chars16 (v :: us)
    else Char.ofNat u :: chars16 (v :: us)

def decode? : Encoding → List UInt8 → Option Text
  | .utf8, bytes => some (Utf8.lenient bytes)
  | .utf8Marked, 0xEF :: 0xBB :: 0xBF :: bytes => some (Utf8.lenient bytes)
  | .utf8Marked, bytes => some (Utf8.lenient bytes)
  | .ascii, bytes => some ((bytes.filter (· < 0x80)).map (fun b => Char.ofNat b.toNat))
  | .latin1, bytes => some (bytes.map (fun b => Char.ofNat b.toNat))
  | .windows1252, bytes => some (bytes.filterMap windowsChar?)
  | .utf16, 0xFF :: 0xFE :: bytes => some (chars16 (units16 false bytes))
  | .utf16, 0xFE :: 0xFF :: bytes => some (chars16 (units16 true bytes))
  | .utf16, bytes => if bytes.length < 2 then some [] else none
  | .utf16Little, bytes => some (chars16 (units16 false bytes))
  | .utf16Big, bytes => some (chars16 (units16 true bytes))

end Encoding

/-- What a decoder makes of bytes: the text up to where it gives up, and why it does. -/
structure Decoded where
  text : Text
  problem : Option Text := none

inductive Codec where
  | text (decode : List UInt8 → Decoded)
  | binary

def Encoding.codec (e : Encoding) : Codec :=
  .text fun bytes =>
    match e.decode? bytes with
    | some text => { text }
    | none => { text := [], problem := some "UTF-16 stream does not start with BOM".toList }

/-- The codecs that a system has under other names than those of the encodings above. -/
structure Codecs where
  other? : (name : Text) → Option Codec := fun _ => none

def Codecs.find? (codecs : Codecs) (name : Text) : Option Codec :=
  match Encoding.ofFileName? name with
  | some e => some e.codec
  | none => codecs.other? name

end CommentTags
