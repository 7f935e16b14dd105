import IntakeForms.Text.Encoding

/-!
Percent escapes: a byte written as `%` and two hexadecimal digits.  Anything else
stands for itself.
-/

namespace IntakeForms.Percent

def hexDigit? (b : UInt8) : Option Nat :=
  let n := b.toNat
  if 48 ≤ n ∧ n ≤ 57 then some (n - 48)
  else if 97 ≤ n ∧ n ≤ 102 then some (n - 87)
  else if 65 ≤ n ∧ n ≤ 70 then some (n - 55)
  else none

def decodeBytes : List UInt8 → List UInt8
  | [] => []
  | p :: a :: b :: rest =>
    match hexDigit? a, hexDigit? b with
    | some m, some n =>
      if p = 37 then UInt8.ofNat (16 * m + n) :: decodeBytes rest
      else p :: decodeBytes (a :: b :: rest)
    | _, _ => p :: decodeBytes (a :: b :: rest)
  | p :: rest => p :: decodeBytes rest

def decode? (s : String) : Option String :=
  String.fromUTF8? ⟨(decodeBytes s.toUTF8.toList).toArray⟩

def decode (s : String) : String := String.ofList (Text.lossy (decodeBytes s.toUTF8.toList))

end IntakeForms.Percent
