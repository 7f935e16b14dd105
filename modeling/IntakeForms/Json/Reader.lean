import IntakeForms.Json.Tree
import IntakeForms.Limits
import IntakeForms.Number.Numeral

/-!
Reading JSON text.  Accepted beyond the standard: the three values that are not
finite, and halves of pairs of units.  A mistake comes with the rest of the text at
which it was found, so that no reader has to count characters.  Text without a
mistake may still be too much for the bounds of the reader.
-/

namespace IntakeForms.Json

inductive Mistake
  | valueExpected
  | nameExpected
  | colonExpected
  | commaExpected
  | unterminated
  | escape
  | unitEscape
  | control
  | extraData
  | byteOrderMark
deriving DecidableEq, Repr

def Mistake.message : Mistake → String
  | .valueExpected => "Expecting value"
  | .nameExpected => "Expecting property name enclosed in double quotes"
  | .colonExpected => "Expecting ':' delimiter"
  | .commaExpected => "Expecting ',' delimiter"
  | .unterminated => "Unterminated string starting at"
  | .escape => "Invalid \\escape"
  | .unitEscape => "Invalid \\uXXXX escape"
  | .control => "Invalid control character at"
  | .extraData => "Extra data"
  | .byteOrderMark => "Unexpected UTF-8 BOM (decode using utf-8-sig)"

inductive Fault
  | mistake (m : Mistake) (rest : List Char)
  | tooManyDigits
  | tooDeep

abbrev Read (α : Type) := Except Fault (α × List Char)

def isGap (c : Char) : Bool := c == ' ' || c == '\t' || c == '\n' || c == '\r'

def skipGap (cs : List Char) : List Char := cs.dropWhile isGap

def hexValue? (c : Char) : Option Nat :=
  if '0' ≤ c ∧ c ≤ '9' then some (c.toNat - 48)
  else if 'a' ≤ c ∧ c ≤ 'f' then some (c.toNat - 87)
  else if 'A' ≤ c ∧ c ≤ 'F' then some (c.toNat - 55)
  else none

def unit? (a b c d : Char) : Option Nat := do
  let a ← hexValue? a
  let b ← hexValue? b
  let c ← hexValue? c
  let d ← hexValue? d
  return ((a * 16 + b) * 16 + c) * 16 + d

def shortEscape? (c : Char) : Option Char :=
  if c = '"' ∨ c = '\\' ∨ c = '/' then some c
  else if c = 'b' then some (Char.ofNat 8)
  else if c = 'f' then some (Char.ofNat 12)
  else if c = 'n' then some '\n'
  else if c = 'r' then some '\r'
  else if c = 't' then some '\t'
  else none

/-- What a unit whose digits have been read stands for, and how many more characters it takes: six
for a pair of units.  A unit without its partner is half of a pair. -/
def pairEscape (n : Nat) (more : List Char) : Except Fault (Text.Point × Nat) :=
  if Text.isHigh n then
    match more with
    | '\\' :: 'u' :: a :: b :: c :: d :: tail@(_ :: _) =>
      match unit? a b c d with
      | none => .error (.mistake .unitEscape ('u' :: a :: b :: c :: d :: tail))
      | some low =>
        if Text.isLow low then .ok (.char (Char.ofNat (Text.joined n low)), 6)
        else .ok (.half n, 0)
    | _ => .ok (.half n, 0)
  else .ok (.ofNat n, 0)

/-- What an escape stands for and the length of the escape after its backslash. -/
def escape (start : List Char) (cs : List Char) : Except Fault (Text.Point × Nat) :=
  match cs with
  | [] => .error (.mistake .unterminated start)
  | 'u' :: a :: b :: c :: d :: more@(_ :: _) =>
    match unit? a b c d with
    | none => .error (.mistake .unitEscape cs)
    | some n => (pairEscape n more).map fun (p, k) => (p, 5 + k)
  | 'u' :: _ => .error (.mistake .unitEscape cs)
  | c :: _ =>
    match shortEscape? c with
    | none => .error (.mistake .escape ('\\' :: cs))
    | some ch => .ok (.char ch, 1)

def chars (start : List Char) (cs : List Char) : Read (List Text.Point) :=
  match cs with
  | [] => .error (.mistake .unterminated start)
  | '"' :: rest => .ok ([], rest)
  | '\\' :: rest =>
    match escape start rest with
    | .error f => .error f
    | .ok (p, n) =>
      match chars start (rest.drop n) with
      | .error f => .error f
      | .ok (s, tail) => .ok (p :: s, tail)
  | c :: rest =>
    if c.toNat < 0x20 then .error (.mistake .control cs)
    else match chars start rest with
      | .error f => .error f
      | .ok (s, tail) => .ok (.char c :: s, tail)
termination_by cs.length
decreasing_by
  · simp only [List.length_drop, List.length_cons]; omega
  · simp

def wholeDigits (cs : List Char) : List Char × List Char :=
  match cs with
  | '0' :: rest => (['0'], rest)
  | _ => (cs.takeWhile Numeral.isDigit, cs.dropWhile Numeral.isDigit)

def fractionDigits (cs : List Char) : List Char × List Char :=
  match cs with
  | '.' :: rest =>
    if (rest.takeWhile Numeral.isDigit).isEmpty then ([], cs)
    else (rest.takeWhile Numeral.isDigit, rest.dropWhile Numeral.isDigit)
  | _ => ([], cs)

def exponentPart (cs : List Char) : Option Int × List Char :=
  match cs with
  | e :: rest =>
    let (negative, body) := Numeral.splitSign rest
    let ds := body.takeWhile Numeral.isDigit
    if (e = 'e' ∨ e = 'E') ∧ ¬ ds.isEmpty then
      (some (if negative then -(Numeral.natOfDigits ds : Int) else Numeral.natOfDigits ds),
        body.dropWhile Numeral.isDigit)
    else (none, cs)
  | [] => (none, cs)

def number (b : Bounds) (cs : List Char) : Read Tree :=
  let (negative, body) := match cs with
    | '-' :: rest => (true, rest)
    | _ => (false, cs)
  let (whole, afterWhole) := wholeDigits body
  if whole.isEmpty then .error (.mistake .valueExpected cs)
  else
    let (fraction, afterFraction) := fractionDigits afterWhole
    let (exponent, rest) := exponentPart afterFraction
    let n := Numeral.natOfDigits (whole ++ fraction)
    if fraction.isEmpty && exponent.isNone then
      if b.digits < whole.length then .error .tooManyDigits
      else .ok (.int (if negative then -(n : Int) else n), rest)
    else
      .ok (.real (Binary64.ofDecimal negative n (exponent.getD 0 - fraction.length)), rest)

def words : List (String × Tree) :=
  [("null", .null), ("true", .bool true), ("false", .bool false), ("NaN", .real Binary64.nan),
    ("Infinity", .real (Binary64.infinity false)), ("-Infinity", .real (Binary64.infinity true))]

def word? (cs : List Char) : Option (Tree × List Char) :=
  words.findSome? fun (name, t) => (name.toList.isPrefixOf? cs).map fun rest => (t, rest)

mutual

/-- Reads one value that may have `room` levels; `fuel` bounds the nesting and the number of
items. -/
def value (b : Bounds) : (fuel room : Nat) → List Char → Read Tree
  | 0, _, cs => .error (.mistake .valueExpected cs)
  | fuel + 1, room, cs =>
    match cs with
    | '"' :: rest =>
      match chars cs rest with
      | .error f => .error f
      | .ok (s, tail) => .ok (.text s, tail)
    | '[' :: rest =>
      if room = 0 then .error .tooDeep
      else match skipGap rest with
      | ']' :: tail => .ok (.list [], tail)
      | inner =>
        match items b fuel (room - 1) inner with
        | .error f => .error f
        | .ok (vs, tail) => .ok (.list vs, tail)
    | '\x7b' :: rest =>
      if room = 0 then .error .tooDeep
      else match skipGap rest with
      | '\x7d' :: tail => .ok (.map [], tail)
      | inner =>
        match members b fuel (room - 1) inner with
        | .error f => .error f
        | .ok (es, tail) => .ok (.map es, tail)
    | _ =>
      match word? cs with
      | some (v, tail) => .ok (v, tail)
      | none => number b cs

def items (b : Bounds) : (fuel room : Nat) → List Char → Read (List Tree)
  | 0, _, cs => .error (.mistake .valueExpected cs)
  | fuel + 1, room, cs =>
    match value b fuel room cs with
    | .error f => .error f
    | .ok (v, tail) =>
      match skipGap tail with
      | ']' :: rest => .ok ([v], rest)
      | ',' :: rest =>
        match items b fuel room (skipGap rest) with
        | .error f => .error f
        | .ok (vs, left) => .ok (v :: vs, left)
      | rest => .error (.mistake .commaExpected rest)

def members (b : Bounds) : (fuel room : Nat) → List Char → Read (List (List Text.Point × Tree))
  | 0, _, cs => .error (.mistake .nameExpected cs)
  | fuel + 1, room, cs =>
    match cs with
    | '"' :: afterQuote =>
      match chars cs afterQuote with
      | .error f => .error f
      | .ok (name, afterName) =>
        match skipGap afterName with
        | ':' :: afterColon =>
          match value b fuel room (skipGap afterColon) with
          | .error f => .error f
          | .ok (v, tail) =>
            match skipGap tail with
            | '\x7d' :: rest => .ok ([(name, v)], rest)
            | ',' :: rest =>
              match members b fuel room (skipGap rest) with
              | .error f => .error f
              | .ok (es, left) => .ok ((name, v) :: es, left)
            | rest => .error (.mistake .commaExpected rest)
        | rest => .error (.mistake .colonExpected rest)
    | _ => .error (.mistake .nameExpected cs)

end

def document (b : Bounds) (cs : List Char) : Except Fault Tree :=
  match cs with
  | '\uFEFF' :: _ => .error (.mistake .byteOrderMark cs)
  | _ =>
    match value b (2 * cs.length + 2) b.depth (skipGap cs) with
    | .error f => .error f
    | .ok (v, tail) =>
      match skipGap tail with
      | [] => .ok v
      | rest => .error (.mistake .extraData rest)

/-- A mistake and the text before it. -/
structure Complaint where
  mistake : Mistake
  before : List Char

/-- Why a text was not read. -/
inductive Refused
  | mistaken (c : Complaint)
  | tooManyDigits
  | tooDeep

def read (b : Bounds) (s : String) : Except Refused Tree :=
  match document b s.toList with
  | .ok v => .ok v
  | .error (.mistake m rest) =>
    .error (.mistaken ⟨m, s.toList.take (s.toList.length - rest.length)⟩)
  | .error .tooManyDigits => .error .tooManyDigits
  | .error .tooDeep => .error .tooDeep

namespace Complaint

def position (c : Complaint) : Nat := c.before.length

def line (c : Complaint) : Nat := c.before.count '\n' + 1

def column (c : Complaint) : Nat := (c.before.reverse.takeWhile (· != '\n')).length + 1

def message (c : Complaint) : String :=
  c.mistake.message ++ ": line " ++ toString c.line ++ " column " ++ toString c.column ++
    " (char " ++ toString c.position ++ ")"

end Complaint

end IntakeForms.Json
