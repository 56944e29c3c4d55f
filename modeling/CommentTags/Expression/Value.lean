import CommentTags.Expression.Tree

namespace CommentTags.Expression

inductive Number where
  | whole (n : Nat)
  | real
  | imaginary
deriving DecidableEq, Repr

namespace Number

def baseValue (base : Nat) (s : Text) : Nat := s.foldl (fun n c => n * base + (c.toNat - 48)) 0

def ofDigits (s : Text) : Number :=
  let s := (s.filter (· != '_')).map Char.toLower
  match s with
  | '0' :: 'x' :: s => .whole (Text.hexValue s)
  | '0' :: 'o' :: s => .whole (baseValue 8 s)
  | '0' :: 'b' :: s => .whole (baseValue 2 s)
  | s =>
    if s.getLast? = some 'j' then .imaginary
    else if s.all Text.isDigit then .whole (Text.digitsValue s)
    else .real

def realLimit : Nat := Nat.pow 2 1024 - Nat.pow 2 970

end Number

def number? : Tree → Option Number
  | .constant (.number s) => some (Number.ofDigits s)
  | _ => none

def signedNumber? : Tree → Option Number
  | .node .sign [t] => number? t
  | t => number? t

structure Value where
  unhashable : Option Text := none
deriving DecidableEq, Repr

def Value.set : Value := ⟨some "set".toList⟩
def Value.dictionary : Value := ⟨some "dict".toList⟩

def numberValue (t : Tree) : Except Problem Value :=
  match t with
  | .node .sum [l, r] =>
    match signedNumber? l, number? r with
    | some (.whole n), some .imaginary =>
      if Number.realLimit ≤ n then .error .hugeNumber else .ok {}
    | some .real, some .imaginary => .ok {}
    | _, _ => .error .noLiteral
  | _ => if (signedNumber? t).isSome then .ok {} else .error .noLiteral

mutual

def value : Tree → Except Problem Value
  | .constant _ => .ok {}
  | .node .tuple ts => tupleValue ts
  | .node .set ts => setValue ts
  | .node .dictionary ts => dictionaryValue ts
  | .node .call [f] => if f.isName "set" then .ok .set else .error .noLiteral
  | t => numberValue t

def tupleValue : List Tree → Except Problem Value
  | [] => .ok {}
  | t :: ts => do
    let v ← value t
    let vs ← tupleValue ts
    return ⟨v.unhashable <|> vs.unhashable⟩

def setValue : List Tree → Except Problem Value
  | [] => .ok .set
  | t :: ts => do
    match (← value t).unhashable with
    | some kind => throw (.unhashable kind)
    | none => setValue ts

def dictionaryValue : List Tree → Except Problem Value
  | [] => .ok .dictionary
  | .nothing :: _ => .error .emptyKey
  | t :: ts => do
    let key ← value t
    match ts with
    | [] => .ok .dictionary
    | u :: ts =>
      discard (value u)
      match key.unhashable with
      | some kind => throw (.unhashable kind)
      | none => dictionaryValue ts

end

end CommentTags.Expression
