import IntakeForms.Number.Numeral

/-!
Patterns of messages: text with directives that begin with a percent sign; two of
these signs stand for one.  A directive may name a key in brackets and have flags, a least width, a precision, a
size mark without meaning, and ends in a letter that tells how its value is shown.
-/

namespace IntakeForms.Log.Pattern

structure Flags where
  left : Bool
  plus : Bool
  blank : Bool
  marked : Bool
  zeros : Bool
deriving DecidableEq, Repr

/-- A width or precision, perhaps one that is taken from the values. -/
inductive Count
  | given (n : Nat)
  | taken
deriving DecidableEq, Repr

/-- Brackets that are never closed hold no key, and a directive that breaks off has no letter. -/
structure Directive where
  key : Option (Option String)
  flags : Flags
  width : Option Count
  precision : Option Count
  letter : Option Char
deriving DecidableEq, Repr

inductive Piece
  | char (c : Char)
  | directive (d : Directive)
deriving DecidableEq, Repr

/-- The text up to the bracket that closes `depth` open ones, and what follows. -/
def bracketed? : (depth : Nat) → List Char → Option (List Char × List Char)
  | _, [] => none
  | depth, c :: rest =>
    if c = ')' ∧ depth ≤ 1 then some ([], rest)
    else
      let depth := if c = ')' then depth - 1 else if c = '(' then depth + 1 else depth
      (bracketed? depth rest).map fun (key, tail) => (c :: key, tail)

def key (cs : List Char) : Option (Option String) × List Char :=
  match cs with
  | '(' :: rest => match bracketed? 1 rest with
    | some (k, tail) => (some (some (String.ofList k)), tail)
    | none => (some none, [])
  | _ => (none, cs)

def isFlag (c : Char) : Bool := c == '-' || c == '+' || c == ' ' || c == '#' || c == '0'

def flags (cs : List Char) : Flags × List Char :=
  let fs := cs.takeWhile isFlag
  (⟨fs.contains '-', fs.contains '+', fs.contains ' ', fs.contains '#', fs.contains '0'⟩,
    cs.dropWhile isFlag)

def count (cs : List Char) : Option Count × List Char :=
  match cs with
  | '*' :: rest => (some .taken, rest)
  | _ =>
    let digits := cs.takeWhile Numeral.isDigit
    (if digits.isEmpty then none else some (.given (Numeral.natOfDigits digits)),
      cs.dropWhile Numeral.isDigit)

def precision (cs : List Char) : Option Count × List Char :=
  match cs with
  | '.' :: rest =>
    let (n, tail) := count rest
    (some (n.getD (.given 0)), tail)
  | _ => (none, cs)

def withoutSize (cs : List Char) : List Char :=
  match cs with
  | 'h' :: rest | 'l' :: rest | 'L' :: rest => rest
  | _ => cs

def directive (cs : List Char) : Directive × List Char :=
  let (key, cs) := key cs
  let (flags, cs) := flags cs
  let (width, cs) := count cs
  let (precision, cs) := precision cs
  let cs := withoutSize cs
  (⟨key, flags, width, precision, cs.head?⟩, cs.drop 1)

def pieces : (fuel : Nat) → List Char → List Piece
  | 0, _ => []
  | _, [] => []
  | fuel + 1, '%' :: '%' :: rest => .char '%' :: pieces fuel rest
  | fuel + 1, '%' :: rest =>
    let (d, tail) := directive rest
    .directive d :: pieces fuel tail
  | fuel + 1, c :: rest => .char c :: pieces fuel rest

def ofText (s : String) : List Piece := pieces s.length s.toList

end IntakeForms.Log.Pattern
