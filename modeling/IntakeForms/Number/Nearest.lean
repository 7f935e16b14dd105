import IntakeForms.Number.Binary64

/-!
Rounding to the nearest: exact fractions to binary64 with ties to the even
neighbour, and exact fractions to whole numbers by the same rule.
-/

namespace IntakeForms

/-- The whole number nearest to `num / den`; a half goes to the even neighbour. -/
def roundHalfEven (num den : Nat) : Nat :=
  let q := num / den
  let r := num % den
  if den < 2 * r then q + 1
  else if 2 * r < den then q
  else if q % 2 = 0 then q else q + 1

def roundRat (x : Rat) : Int :=
  if 0 ≤ x.num then roundHalfEven x.num.toNat x.den
  else -(roundHalfEven (-x.num).toNat x.den : Int)

def roundHalfUp (x : Rat) : Int := (x + 1 / 2).floor

namespace Binary64

def inUnits (num den : Nat) (q : Int) : Nat × Nat :=
  if 0 ≤ q then (num, den * Nat.pow 2 q.toNat) else (num * Nat.pow 2 (-q).toNat, den)

/-- The exponent whose unit leaves at most 53 binary digits before the point. -/
def unitExponent (num den : Nat) : Int :=
  let q := max ((num.log2 : Int) - den.log2 - 53) (-1074)
  let (n, d) := inUnits num den q
  if Nat.pow 2 53 ≤ n / d then q + 1 else q

/-- The number nearest to `num / den`; beyond the largest one comes infinity. -/
def nearest (negative : Bool) (num den : Nat) : Binary64 :=
  if num = 0 then zero negative
  else
    let q := unitExponent num den
    let (n, d) := inUnits num den q
    let magnitude := (q + 1074).toNat * Nat.pow 2 52 + roundHalfEven n d
    if magnitude < 2047 * Nat.pow 2 52 then ofMagnitude negative magnitude else infinity negative

def ofDecimal (negative : Bool) (digits : Nat) (scale : Int) : Binary64 :=
  if digits = 0 then zero negative
  else
    let places := (digits.log2 : Int) * 30103 / 100000
    if 400 < places + scale then infinity negative
    else if places + scale < -400 then zero negative
    else if 0 ≤ scale then nearest negative (digits * Nat.pow 10 scale.toNat) 1
    else nearest negative digits (Nat.pow 10 (-scale).toNat)

def ofInt (n : Int) : Binary64 := ofDecimal (n < 0) n.natAbs 0

def ofRat (x : Rat) : Binary64 := nearest (x < 0) x.num.natAbs x.den

end Binary64

end IntakeForms
