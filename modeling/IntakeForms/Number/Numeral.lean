import IntakeForms.Number.Nearest
import IntakeForms.Text.Blank

/-!
Numbers written in text.  A whole number may have a sign, leading zeros, single
underscores between digits, and a point followed by zeros only; it must not be
too long.  A fraction may have a point, an exponent, or be one of the names for
infinity and not-a-number.  Underscores are dropped when none is at an end or
next to another.
-/

namespace IntakeForms.Numeral

def isDigit (c : Char) : Bool := '0' ≤ c && c ≤ '9'

def digitValue (c : Char) : Nat := c.toNat - 48

def natOfDigits (ds : List Char) : Nat := ds.foldl (fun n c => 10 * n + digitValue c) 0

def splitSign : List Char → Bool × List Char
  | '-' :: rest => (true, rest)
  | '+' :: rest => (false, rest)
  | cs => (false, cs)

def spaced : List Char → Bool
  | '_' :: _ => false
  | cs => go cs
where
  go : List Char → Bool
    | ['_'] => false
    | '_' :: '_' :: _ => false
    | _ :: rest => go rest
    | [] => true

def ungrouped (cs : List Char) : List Char :=
  if spaced cs then cs.filter (· != '_') else cs

/-- Why a text is no whole number. -/
inductive Refused
  | malformed
  | tooLong
deriving DecidableEq, Repr

/-- Bytes that a whole number may take without its leading zeros and its fraction. -/
def maxLength : Nat := 4300

def withoutPlus? : List Char → Option (List Char)
  | '+' :: '-' :: _ => none
  | '+' :: rest => some rest
  | cs => some cs

/-- Skips zeros and underscores after the zero `last`, up to a digit or a minus sign.  Before a
point or the end of the text the last of them stays. -/
def skipZeros? (last : Char) : List Char → Option (List Char)
  | [] => some [last]
  | c :: rest =>
    if c = '0' ∨ c = '_' then skipZeros? c rest
    else if isDigit c ∨ c = '-' then some (c :: rest)
    else if c = '.' then some (last :: c :: rest)
    else none

def significant? : List Char → Option (List Char)
  | [] => none
  | c :: rest =>
    if c = '0' then skipZeros? c rest
    else if isDigit c ∨ c = '-' then some (c :: rest)
    else none

def isZeroFraction : List Char → Bool
  | '.' :: '0' :: zeros => zeros.all (· == '0')
  | _ => false

def withoutFraction (cs : List Char) : List Char :=
  if isZeroFraction (cs.dropWhile (· != '.')) then cs.takeWhile (· != '.') else cs

def digits? (ds : List Char) : Option Nat :=
  if !ds.isEmpty && ds.all isDigit then some (natOfDigits ds) else none

def signed? : List Char → Option Int
  | '-' :: ds => (digits? ds).map fun n => -(n : Int)
  | ds => (digits? ds).map fun n => (n : Int)

def whole (s : String) : Except Refused Int :=
  match (withoutPlus? (Text.trimBy Text.isSpace s.toList)).bind significant? with
  | none => .error .malformed
  | some cs =>
    let kept := ungrouped (withoutFraction cs)
    if maxLength < (String.ofList kept).utf8ByteSize then .error .tooLong
    else match signed? kept with
      | some n => .ok n
      | none => .error .malformed

def exponent? : List Char → Option Int
  | [] => some 0
  | e :: rest =>
    let (negative, ds) := splitSign rest
    if (e == 'e' || e == 'E') && !ds.isEmpty && ds.all isDigit then
      some (if negative then -(natOfDigits ds : Int) else natOfDigits ds)
    else none

def unsigned? (negative : Bool) (cs : List Char) : Option Binary64 :=
  let whole := cs.takeWhile isDigit
  let rest := cs.dropWhile isDigit
  let (fraction, tail) := match rest with
    | '.' :: more => (more.takeWhile isDigit, more.dropWhile isDigit)
    | _ => ([], rest)
  if whole.isEmpty && fraction.isEmpty then none
  else (exponent? tail).map fun e =>
    Binary64.ofDecimal negative (natOfDigits (whole ++ fraction)) (e - fraction.length)

def plain? (cs : List Char) : Option Binary64 :=
  let (negative, body) := splitSign cs
  let name := String.ofList (body.map Char.toLower)
  if name = "inf" ∨ name = "infinity" then some (Binary64.infinity negative)
  else if name = "nan" then some Binary64.nan
  else unsigned? negative body

/-- The text without blanks around it, or the text as it is without its underscores. -/
def real? (s : String) : Option Binary64 :=
  match plain? (Text.trimBy Text.isSpace s.toList) with
  | some x => some x
  | none => plain? (ungrouped s.toList)

end IntakeForms.Numeral
