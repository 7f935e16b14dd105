import IntakeForms.Text.Point

/-!
Bytes to text.  Text that begins with two ASCII characters shows by the zero bytes
among its first four in which encoding it is.  Half of a pair of units stays what it
is; other faults make the bytes no text, except in `lossy`, where every fault becomes
the replacement character.
-/

namespace IntakeForms.Text

inductive Encoding
  | utf8
  | utf16 (highFirst : Bool)
  | utf32 (highFirst : Bool)
deriving DecidableEq, Repr

namespace Encoding

def ofBytes : List UInt8 → Encoding
  | a :: b :: c :: d :: _ =>
    if a = 0 then if b = 0 then .utf32 true else .utf16 true
    else if b = 0 then if c = 0 ∧ d = 0 then .utf32 false else .utf16 false
    else .utf8
  | [a, b] => if a = 0 then .utf16 true else if b = 0 then .utf16 false else .utf8
  | _ => .utf8

def units16? (highFirst : Bool) : List UInt8 → Option (List Nat)
  | [] => some []
  | [_] => none
  | a :: b :: rest =>
    let n := if highFirst then a.toNat * 256 + b.toNat else b.toNat * 256 + a.toNat
    (units16? highFirst rest).map (n :: ·)

def units32? (highFirst : Bool) : List Nat → Option (List Nat)
  | [] => some []
  | [_] => none
  | a :: b :: rest =>
    let n := if highFirst then a * 65536 + b else b * 65536 + a
    (units32? highFirst rest).map (n :: ·)

def ofUnits16 : List Nat → List Point
  | [] => []
  | [a] => [.ofNat a]
  | a :: b :: rest =>
    if isHigh a && isLow b then .char (Char.ofNat (joined a b)) :: ofUnits16 rest
    else .ofNat a :: ofUnits16 (b :: rest)

def ofUnit32? (n : Nat) : Option Point := if 0x10ffff < n then none else some (.ofNat n)

def byteOrderMark : Char := '\uFEFF'

def withoutMark : List Char → List Char
  | c :: rest => if c = byteOrderMark then rest else c :: rest
  | [] => []

def decode? (bytes : List UInt8) : Encoding → Option (List Point)
  | .utf8 => (String.fromUTF8? ⟨bytes.toArray⟩).map fun s => (withoutMark s.toList).map .char
  | .utf16 highFirst => (units16? highFirst bytes).map ofUnits16
  | .utf32 highFirst =>
    ((units16? highFirst bytes).bind (units32? highFirst)).bind fun units => units.mapM ofUnit32?

end Encoding

def ofBytes? (bytes : List UInt8) : Option (List Point) := (Encoding.ofBytes bytes).decode? bytes

def followers (first : Nat) : List (Nat × Nat) :=
  let any := (0x80, 0xbf)
  if 0xc2 ≤ first ∧ first ≤ 0xdf then [any]
  else if first = 0xe0 then [(0xa0, 0xbf), any]
  else if first = 0xed then [(0x80, 0x9f), any]
  else if 0xe1 ≤ first ∧ first ≤ 0xef then [any, any]
  else if first = 0xf0 then [(0x90, 0xbf), any, any]
  else if 0xf1 ≤ first ∧ first ≤ 0xf3 then [any, any, any]
  else if first = 0xf4 then [(0x80, 0x8f), any, any]
  else []

def fitting : List (Nat × Nat) → List UInt8 → Nat
  | (low, high) :: ranges, b :: bytes =>
    if low ≤ b.toNat ∧ b.toNat ≤ high then fitting ranges bytes + 1 else 0
  | _, _ => 0

def leadBits (first count : Nat) : Nat := first % Nat.pow 2 (6 - count)

def replacement : Char := Char.ofNat 0xfffd

/-- Reads UTF-8; as many bytes as could have begun one character are replaced together. -/
def lossy : List UInt8 → List Char
  | [] => []
  | first :: rest =>
    let ranges := followers first.toNat
    let n := fitting ranges rest
    let c :=
      if first.toNat < 0x80 then Char.ofNat first.toNat
      else if ranges.isEmpty || n != ranges.length then replacement
      else Char.ofNat ((rest.take n).foldl (fun acc b => acc * 64 + b.toNat % 64)
        (leadBits first.toNat n))
    c :: lossy (rest.drop n)
termination_by bytes => bytes.length
decreasing_by simp only [List.length_drop, List.length_cons]; omega

end IntakeForms.Text
