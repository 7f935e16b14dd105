import IntakeForms.Number.Nearest
import IntakeForms.Number.Shortest

/-!
Finite binary64 numbers with a given number of digits: so many places after the
point, so many after the first digit and a power of ten, or so many altogether in
the shorter of the two forms.  A half goes to the even neighbour.  An open text
keeps its point and, in the last form, its zeros at the end.
-/

namespace IntakeForms.Binary64

def digitsOf (width n : Nat) : List Char :=
  let digits := (toString n).toList
  List.replicate (width - digits.length) '0' ++ digits

def roundedTo (x : Binary64) (k : Int) : Nat :=
  let r := x.rounding
  roundHalfEven (r.value * Nat.pow 10 (-k).toNat) (r.scale * Nat.pow 10 k.toNat)

def behindPoint (isOpen : Bool) (fraction : List Char) : List Char :=
  if fraction.isEmpty && !isOpen then [] else '.' :: fraction

def fixed (isOpen : Bool) (places : Nat) (x : Binary64) : List Char :=
  let digits := digitsOf (places + 1) (if x.isZero then 0 else x.roundedTo (-places))
  let whole := digits.length - places
  digits.take whole ++ behindPoint isOpen (digits.drop whole)

/-- So many significant digits as one number, and the power of ten of the first. -/
def leading (count : Nat) (x : Binary64) : Nat × Int :=
  if x.isZero then (0, 0)
  else
    let first := x.rounding.places - 1
    let n := x.roundedTo (first - (count - 1 : Nat))
    if n < Nat.pow 10 count then (n, first) else (n / 10, first + 1)

def powerText (k : Int) : List Char :=
  'e' :: (if k < 0 then '-' else '+') :: digitsOf 2 k.natAbs

def scientific (isOpen : Bool) (places : Nat) (x : Binary64) : List Char :=
  let (n, k) := x.leading (places + 1)
  let digits := digitsOf (places + 1) n
  digits.take 1 ++ behindPoint isOpen (digits.drop 1) ++ powerText k

def withoutEndZeros (digits : List Char) : List Char :=
  (digits.reverse.dropWhile (· == '0')).reverse

/-- So many digits, positional from `1e-4` on up to that many before the point. -/
def general (isOpen : Bool) (count : Nat) (x : Binary64) : List Char :=
  let count := max count 1
  let (n, k) := x.leading count
  let all := digitsOf count n
  let shown (digits : List Char) : List Char := if isOpen then digits else withoutEndZeros digits
  if k < -4 ∨ (count : Int) ≤ k then
    all.take 1 ++ behindPoint isOpen (shown (all.drop 1)) ++ powerText k
  else if k < 0 then
    '0' :: behindPoint isOpen (List.replicate (-k - 1).toNat '0' ++ shown all)
  else
    all.take (k.toNat + 1) ++ behindPoint isOpen (shown (all.drop (k.toNat + 1)))

end IntakeForms.Binary64
