import CommentTags.Text

namespace CommentTags

structure Decimal where
  digits : Nat
  exponent : Int
deriving DecidableEq, Repr

namespace Decimal

structure Rounding where
  low : Nat
  value : Nat
  high : Nat
  den : Nat
  closed : Bool

def Rounding.ofBits (bits : UInt64) : Rounding :=
  let e := ((bits >>> 52) &&& 0x7FF).toNat
  let f := (bits &&& 0xFFFFFFFFFFFFF).toNat
  let m := if e = 0 then f else f + Nat.pow 2 52
  let gap := if f = 0 ∧ 1 < e then 1 else 2
  let e := max e 1
  let up := Nat.pow 2 (e - 1077)
  ⟨(4 * m - gap) * up, 4 * m * up, (4 * m + 2) * up, Nat.pow 2 (1077 - e), m % 2 = 0⟩

def Rounding.accepts (r : Rounding) (d : Decimal) : Bool :=
  let x := d.digits * Nat.pow 10 d.exponent.toNat * r.den
  let scale := Nat.pow 10 (-d.exponent).toNat
  if r.closed then r.low * scale ≤ x && x ≤ r.high * scale
  else r.low * scale < x && x < r.high * scale

def Rounding.magnitude (r : Rounding) : Int :=
  (Nat.toDigits 10 (r.value * Nat.pow 10 400 / r.den)).length - 400

def Rounding.nearest? (r : Rounding) (exponent : Int) : Option Decimal :=
  let num := r.value * Nat.pow 10 (-exponent).toNat
  let den := r.den * Nat.pow 10 exponent.toNat
  let below : Decimal := ⟨num / den, exponent⟩
  let above : Decimal := ⟨num / den + 1, exponent⟩
  let twice := 2 * (num % den)
  let upward := den < twice || (twice == den && below.digits % 2 == 1)
  match r.accepts below, r.accepts above with
  | true, true => some (if upward then above else below)
  | true, false => some below
  | false, true => some above
  | false, false => none

def Rounding.shortest (r : Rounding) : Decimal :=
  let candidates := (List.range 17).filterMap (fun (n : Nat) =>
    r.nearest? (r.magnitude - ((n : Int) + 1)))
  candidates.head?.getD ⟨r.value / r.den, 0⟩

def split (d : Decimal) : Text × Int :=
  let ds := Nat.toDigits 10 d.digits
  (Text.dropEndWhile (· == '0') ds, d.exponent + ds.length - 1)

def text (d : Decimal) : Text :=
  let (ds, e) := d.split
  if e < -4 ∨ 16 ≤ e then
    let fraction := if ds.length ≤ 1 then [] else '.' :: ds.drop 1
    let digits := Text.ofNat e.natAbs
    ds.take 1 ++ fraction ++ 'e' :: (if e < 0 then '-' else '+') ::
      (List.replicate (2 - digits.length) '0' ++ digits)
  else if e < 0 then
    "0.".toList ++ List.replicate (e.natAbs - 1) '0' ++ ds
  else
    let whole := e.toNat + 1
    let fraction := ds.drop whole
    ds.take whole ++ List.replicate (whole - ds.length) '0' ++
      '.' :: (if fraction.isEmpty then ['0'] else fraction)

def ofFinite (x : Float) : Text :=
  let bits := x.toBits
  let magnitude := bits &&& 0x7FFFFFFFFFFFFFFF
  let text := if magnitude = 0 then "0.0".toList else (Rounding.ofBits magnitude).shortest.text
  if bits = magnitude then text else '-' :: text

def truncate (x : Float) : Int :=
  let bits := x.toBits
  let r := Rounding.ofBits (bits &&& 0x7FFFFFFFFFFFFFFF)
  let whole : Int := r.value / r.den
  if x < 0 then -whole else whole

def read (mantissa : Nat) (exponent : Int) : Float :=
  let size := (Nat.toDigits 10 mantissa).length + exponent
  if mantissa = 0 ∨ size < -400 then 0.0
  else if 400 < size then 1.0 / 0.0
  else Float.ofScientific mantissa (exponent < 0) exponent.natAbs

end Decimal

end CommentTags
