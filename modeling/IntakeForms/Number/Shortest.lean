import IntakeForms.Number.Binary64

/-!
The shortest decimal that reads back as a binary64 number, and its text.  The
digits come from the first decimal grid that meets the interval of values
rounding to the number; of two points of that grid the nearer is taken.
-/

namespace IntakeForms.Binary64

/-- A positive number and the interval that rounds to it, as multiples of `1 / scale`. -/
structure Rounding where
  value : Nat
  low : Nat
  high : Nat
  scale : Nat
  closed : Bool

def rounding (x : Binary64) : Rounding :=
  let m := x.mantissa
  let below := if m = Nat.pow 2 52 ∧ 1 < x.exponentField then 1 else 2
  let up := Nat.pow 2 (x.exponent - 2).toNat
  { value := 4 * m * up
    low := (4 * m - below) * up
    high := (4 * m + 2) * up
    scale := Nat.pow 2 (2 - x.exponent).toNat
    closed := m % 2 == 0 }

namespace Rounding

def holds (r : Rounding) (c : Nat) (k : Int) : Bool :=
  let point := c * Nat.pow 10 k.toNat * r.scale
  let unit := Nat.pow 10 (-k).toNat
  if r.closed then r.low * unit ≤ point && point ≤ r.high * unit
  else r.low * unit < point && point < r.high * unit

/-- The point of the grid `10 ^ k` that stands for the number, if the grid has one. -/
def point? (r : Rounding) (k : Int) : Option Nat :=
  let unit := Nat.pow 10 k.toNat * r.scale
  let value := r.value * Nat.pow 10 (-k).toNat
  let c := value / unit
  let rest := value - c * unit
  let upper := unit < 2 * rest || (unit == 2 * rest && c % 2 == 1)
  match r.holds c k, r.holds (c + 1) k with
  | true, true => some (if upper then c + 1 else c)
  | true, false => some c
  | false, true => some (c + 1)
  | false, false => none

/-- The number of digits before the decimal point: the value is below `10 ^ places`. -/
def places (r : Rounding) : Int :=
  let guess := ((r.value.log2 : Int) - r.scale.log2) * 30103 / 100000 - 1
  let fits (p : Int) : Bool := r.value * Nat.pow 10 (-p).toNat < Nat.pow 10 p.toNat * r.scale
  ((List.range 5).map fun (i : Nat) => guess + i).find? fits |>.getD guess

def digits (r : Rounding) : Nat × Int :=
  let p := r.places
  let grids := (List.range 17).map fun (i : Nat) => p - 1 - i
  (grids.findSome? fun k => (r.point? k).map fun c => (c, k)).getD (r.value, 0)

end Rounding

/-- Where the digits of a decimal text go: `point` of them stand before the point. -/
def layout (digits : List Char) (point : Int) : List Char :=
  let n : Int := digits.length
  if point ≤ -4 || 16 < point then
    let e := point - 1
    let size := (toString e.natAbs).toList
    let tail := match digits.drop 1 with
      | [] => []
      | rest => '.' :: rest
    digits.take 1 ++ tail ++ ['e', if e < 0 then '-' else '+'] ++
      (if size.length < 2 then '0' :: size else size)
  else if point ≤ 0 then
    '0' :: '.' :: (List.replicate (-point).toNat '0' ++ digits)
  else if n ≤ point then
    digits ++ List.replicate (point - n).toNat '0' ++ ['.', '0']
  else
    digits.take point.toNat ++ '.' :: digits.drop point.toNat

def significant (c : Nat) : List Char :=
  ((toString c).toList.reverse.dropWhile (· == '0')).reverse

/-- The decimal text of a finite number: positional between `1e-4` and `1e16`. -/
def finiteText (x : Binary64) : String :=
  let body :=
    if x.isZero then ['0', '.', '0']
    else
      let (c, k) := x.rounding.digits
      layout (significant c) (k + ((toString c).toList.length : Int))
  String.ofList (if x.negative then '-' :: body else body)

/-- How the values that are not finite are spelled. -/
structure Spelling where
  notANumber : String
  infinite : String

def text (spelling : Spelling) (x : Binary64) : String :=
  if x.isNaN then spelling.notANumber
  else if x.isInfinite then (if x.negative then "-" else "") ++ spelling.infinite
  else x.finiteText

end IntakeForms.Binary64
