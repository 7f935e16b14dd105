import IntakeForms.Number.Numeral
import IntakeForms.Time.Timestamp

/-!
Reading moments.  Accepted are an ISO 8601 date with a time and perhaps an
offset, a date alone, and a number of seconds since 1970, which counts
milliseconds when it is beyond 20 thousand million.  Years run from 0 to 9999; a
caller whose calendar has no year 0 has to refuse it.
-/

namespace IntakeForms.Timestamp

def digits? (width : Nat) (cs : List Char) : Option (Nat × List Char) :=
  let ds := cs.take width
  if ds.length = width ∧ ds.all Numeral.isDigit then
    some (Numeral.natOfDigits ds, cs.drop width)
  else none

def sign? (c : Char) (cs : List Char) : Option (List Char) :=
  match cs with
  | d :: rest => if d = c then some rest else none
  | [] => none

def date? (cs : List Char) : Option ((Nat × Nat × Nat) × List Char) := do
  let (y, cs) ← digits? 4 cs
  let cs ← sign? '-' cs
  let (m, cs) ← digits? 2 cs
  let cs ← sign? '-' cs
  let (d, cs) ← digits? 2 cs
  if 1 ≤ m ∧ m ≤ 12 ∧ 1 ≤ d ∧ d ≤ daysInMonth y m then return ((y, m, d), cs)
  else none

def fraction? (cs : List Char) : Option (Nat × List Char) :=
  match cs with
  | c :: rest =>
    if c = '.' ∨ c = ',' then
      let ds := rest.takeWhile Numeral.isDigit
      let six := ds.take 6 ++ List.replicate (6 - ds.length) '0'
      if ds.isEmpty then none else some (Numeral.natOfDigits six, rest.dropWhile Numeral.isDigit)
    else some (0, cs)
  | [] => some (0, cs)

def seconds? (cs : List Char) : Option ((Nat × Nat) × List Char) :=
  match cs with
  | ':' :: rest => do
    let (s, cs) ← digits? 2 rest
    let (us, cs) ← fraction? cs
    if s < 60 then return ((s, us), cs) else none
  | _ => some ((0, 0), cs)

def offset? (cs : List Char) : Option (Option Int) :=
  match cs with
  | [] => some none
  | c :: rest =>
    if (c = 'Z' ∨ c = 'z') ∧ rest.isEmpty then some (some 0)
    else if c = '+' ∨ c = '-' ∨ c = '−' then do
      let (h, cs) ← digits? 2 rest
      let cs := (sign? ':' cs).getD cs
      let (m, cs) ← digits? 2 cs
      if cs.isEmpty ∧ m < 60 ∧ h < 24 then
        let total : Int := h * 60 + m
        return some (if c = '+' then total else -total)
      else none
    else none

def isSeparator (c : Char) : Bool := c == 'T' || c == 't' || c == ' ' || c == '_'

def ofIso? (cs : List Char) : Option Timestamp := do
  let ((y, mo, d), cs) ← date? cs
  match cs with
  | [] => return ⟨y, mo, d, 0, 0, 0, 0, none⟩
  | c :: cs =>
    if isSeparator c then
      let (h, cs) ← digits? 2 cs
      let cs ← sign? ':' cs
      let (mi, cs) ← digits? 2 cs
      let ((s, us), cs) ← seconds? cs
      let o ← offset? cs
      if h < 24 ∧ mi < 60 then return ⟨y, mo, d, h, mi, s, us, o⟩ else none
    else none

def watershed : Nat := 20000000000

/-- The moment so many microseconds after 1970 began, from the year 0 to the year 9999. -/
def inYears? (micros : Int) : Option Timestamp :=
  if -62167219200000000 ≤ micros ∧ micros < 253402300800000000 then some (ofMicros micros)
  else none

def ofWhole? (n : Int) : Option Timestamp :=
  inYears? (if n.natAbs ≤ watershed then n * 1000000 else n * 1000)

/-- How many of a thousand or a million parts the fraction of a number has, counted in binary64. -/
def parts (x : Binary64) (unit : Nat) : Int :=
  let fraction := Binary64.ofRat (x.toRat - x.toRat.floor)
  roundHalfUp (Binary64.ofRat (fraction.toRat * (unit : Int))).toRat

def ofReal? (x : Binary64) : Option Timestamp :=
  let limit : Rat := (watershed : Int)
  if ¬ x.isFinite then none
  else if -limit ≤ x.toRat ∧ x.toRat ≤ limit then
    inYears? (x.toRat.floor * 1000000 + parts x 1000000)
  else inYears? (x.toRat.floor * 1000 + parts x 1000)

/-- Digits, or a number with a point; an exponent needs the point before it. -/
def ofNumeral? (cs : List Char) : Option Timestamp :=
  let (negative, body) := Numeral.splitSign cs
  let digits := body.takeWhile Numeral.isDigit
  let n : Int := if negative then -(Numeral.natOfDigits digits : Int) else Numeral.natOfDigits digits
  if n.natAbs < 0x8000000000000000 then
    match body.dropWhile Numeral.isDigit with
    | [] => if digits.isEmpty then none else ofWhole? n
    | '.' :: _ => (Numeral.unsigned? negative body).bind ofReal?
    | _ => none
  else none

def ofText? (s : String) : Option Timestamp :=
  match ofIso? s.toList with
  | some t => some t
  | none => ofNumeral? s.toList

end IntakeForms.Timestamp
