/-!
Code points of texts that come from elsewhere: characters, and halves of a pair of
16-bit units whose other half is missing.
-/

namespace IntakeForms.Text

def isHigh (n : Nat) : Bool := 0xd800 ≤ n && n < 0xdc00

def isLow (n : Nat) : Bool := 0xdc00 ≤ n && n < 0xe000

def joined (high low : Nat) : Nat := 0x10000 + (high - 0xd800) * 0x400 + (low - 0xdc00)

inductive Point
  | char (c : Char)
  | half (unit : Nat)
deriving DecidableEq, Repr

namespace Point

def ofNat (n : Nat) : Point := if isHigh n || isLow n then .half n else .char (Char.ofNat n)

def isChar : Point → Bool
  | .char _ => true
  | .half _ => false

def shown : Point → Char
  | .char c => c
  | .half unit => Char.ofNat (0xf0000 + unit)

end Point

end IntakeForms.Text
