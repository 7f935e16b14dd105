import IntakeForms.Limits
import IntakeForms.Log.Pattern
import IntakeForms.Number.Places
import IntakeForms.Value.Display

/-!
Messages: patterns with values in the place of their directives.  Several values
have to match the directives one to one; a value alone may also be looked into by
key or left over if it is a map or a list.
-/

namespace IntakeForms.Log

/-- Why there is no message, or no line. -/
inductive Unfit
  | wrongKind
  | illFormed
  | noKey
  | noItem
  | noPart
  | outOfRange
  | beyondClock
  | tooWide
  | tooDeep
deriving DecidableEq, Repr

inductive Arguments
  | several (vs : List Value)
  | one (v : Value)

def Arguments.ofList : List Value → Arguments
  | [.map (e :: es)] => .one (.map (e :: es))
  | vs => .several vs

def Arguments.any : Arguments → Bool
  | .several vs => !vs.isEmpty
  | .one v => v.truthy

/-- The values that are left and the one that keys are looked up in. -/
structure Feed where
  left : List Value
  source : Option Value

namespace Feed

def hasKeys : Value → Bool
  | .map _ | .list _ => true
  | _ => false

def ofArguments : Arguments → Feed
  | .several vs => ⟨vs, none⟩
  | .one v => ⟨[v], if hasKeys v then some v else none⟩

def take (f : Feed) : Except Unfit (Value × Feed) :=
  match f.left with
  | v :: rest => .ok (v, { f with left := rest })
  | [] => .error .wrongKind

def isSpent (f : Feed) : Bool := f.left.isEmpty || f.source.isSome

def lookUp (f : Feed) (key : Option String) : Except Unfit Feed :=
  match f.source, key with
  | none, _ => .error .wrongKind
  | some _, none => .error .illFormed
  | some (.map es), some k => match Value.field? k es with
    | some v => .ok { f with left := [v] }
    | none => .error .noKey
  | some _, some _ => .error .wrongKind

end Feed

def whole? : Value → Option Int
  | .int n => some n
  | .bool b => some (if b then 1 else 0)
  | _ => none

def countOf (limit : Nat) (c : Option Pattern.Count) (f : Feed) :
    Except Unfit (Option Int × Feed) :=
  match c with
  | none => .ok (none, f)
  | some (.given n) => if limit < n then .error .illFormed else .ok (some n, f)
  | some .taken => do
    let (v, f) ← f.take
    match whole? v with
    | none => .error .wrongKind
    | some n =>
      if n < -(limit : Int) - 1 ∨ (limit : Int) < n then .error .outOfRange else .ok (some n, f)

def maxWidth : Nat := 0x7fffffffffffffff

def maxPrecision : Nat := 0x7fffffff

def roomyWidth : Nat := 1000000000

/-- What a directive asks for, with its width and precision at hand. -/
structure Demand where
  flags : Pattern.Flags
  width : Nat
  precision : Option Nat
  letter : Char

def tellWhole (b : Json.Bounds) (n : Int) : Except Unfit Unit :=
  if b.digits < digitCount n then .error .illFormed else .ok ()

def tellKey (b : Json.Bounds) : Key → Except Unfit Unit
  | .int n => tellWhole b n
  | _ => .ok ()

mutual

def tellIn (b : Json.Bounds) : (room : Nat) → Value → Except Unfit Unit
  | _, .int n => tellWhole b n
  | room, .list items =>
    match room with
    | 0 => .error .tooDeep
    | room + 1 => tellItems b room items
  | room, .map entries =>
    match room with
    | 0 => .error .tooDeep
    | room + 1 => tellEntries b room entries
  | _, _ => .ok ()

def tellItems (b : Json.Bounds) : (room : Nat) → List Value → Except Unfit Unit
  | _, [] => .ok ()
  | room, v :: rest => do
    tellIn b room v
    tellItems b room rest

def tellEntries (b : Json.Bounds) : (room : Nat) → List (Key × Value) → Except Unfit Unit
  | _, [] => .ok ()
  | room, (k, v) :: rest => do
    tellKey b k
    tellIn b room v
    tellEntries b room rest

end

def tell (b : Json.Bounds) (v : Value) : Except Unfit Unit := tellIn b b.depth v

namespace Demand

def isInteger (d : Demand) : Bool := "diuoxX".toList.contains d.letter

def isFraction (d : Demand) : Bool := "eEfFgG".toList.contains d.letter

def isNumber (d : Demand) : Bool := d.isInteger || d.isFraction

def hasMark (d : Demand) : Bool := d.flags.marked && "oxX".toList.contains d.letter

def signOf (d : Demand) (text : List Char) : List Char :=
  if !d.isNumber then []
  else if text.head? = some '-' then ['-']
  else if d.flags.plus then ['+']
  else if d.flags.blank then [' ']
  else []

/-- Fills a text up to the width: zeros go behind the sign and the mark of a number. -/
def pad (d : Demand) (text : List Char) : List Char :=
  let sign := d.signOf text
  let body := if sign = ['-'] then text.drop 1 else text
  let mark := if d.hasMark then body.take 2 else []
  let body := body.drop mark.length
  let missing := d.width - (sign.length + mark.length + body.length)
  if d.flags.left then sign ++ mark ++ body ++ List.replicate missing ' '
  else if d.isNumber && d.flags.zeros then sign ++ mark ++ List.replicate missing '0' ++ body
  else List.replicate missing ' ' ++ sign ++ mark ++ body

def isUpper (d : Demand) : Bool := d.letter.isUpper

def digits (d : Demand) (n : Nat) : List Char :=
  Nat.toDigits (if d.letter = 'o' then 8 else if d.letter = 'x' ∨ d.letter = 'X' then 16 else 10) n

def integerText (d : Demand) (n : Int) : List Char :=
  let digits := d.digits n.natAbs
  let zeros := List.replicate (d.precision.getD 0 - digits.length) '0'
  let mark := if d.hasMark then ['0', d.letter.toLower] else []
  let text := mark ++ zeros ++ digits
  (if n < 0 then ['-'] else []) ++ if d.isUpper then text.map Char.toUpper else text

def fractionText (d : Demand) (x : Binary64) : List Char :=
  let places := d.precision.getD 6
  let isOpen := d.flags.marked
  let text :=
    if x.isNaN then "nan".toList
    else if x.isInfinite then "inf".toList
    else if d.letter = 'e' ∨ d.letter = 'E' then x.scientific isOpen places
    else if d.letter = 'f' ∨ d.letter = 'F' then x.fixed isOpen places
    else x.general isOpen places
  (if x.negative && !x.isNaN then ['-'] else []) ++ if d.isUpper then text.map Char.toUpper else text

/-- The whole number that an integer directive shows; a fraction is cut off in base ten. -/
def integerOf (d : Demand) (v : Value) : Except Unfit Int :=
  match v with
  | .real x =>
    if "oxX".toList.contains d.letter then .error .wrongKind
    else if x.isNaN then .error .illFormed
    else if x.isInfinite then .error .outOfRange
    else .ok (x.toRat.num.tdiv x.toRat.den)
  | _ => match whole? v with
    | some n => .ok n
    | none => .error .wrongKind

def fractionOf (v : Value) : Except Unfit Binary64 :=
  match v with
  | .real x => .ok x
  | _ => match whole? v with
    | some n =>
      if (Binary64.ofInt n).isFinite then .ok (Binary64.ofInt n) else .error .outOfRange
    | none => .error .wrongKind

def charOf (v : Value) : Except Unfit Char :=
  match v with
  | .text s => match s.toList with
    | [c] => .ok c
    | _ => .error .wrongKind
  | _ => match whole? v with
    | some n => if n < 0 ∨ 0x10ffff < n then .error .outOfRange else .ok (Char.ofNat n.toNat)
    | none => .error .wrongKind

def asciiChar (c : Char) : List Char :=
  let n := c.toNat
  if n < 0x80 then [c]
  else if n < 0x100 then '\\' :: 'x' :: Text.lowerHex 2 n
  else if n < 0x10000 then '\\' :: 'u' :: Text.lowerHex 4 n
  else '\\' :: 'U' :: Text.lowerHex 8 n

def cut (d : Demand) (text : List Char) : List Char :=
  match d.precision with
  | some n => text.take n
  | none => text

def tellInteger (b : Json.Bounds) (d : Demand) (n : Int) : Except Unfit Unit :=
  if "oxX".toList.contains d.letter then .ok () else tellWhole b n

def textOf (b : Json.Bounds) (d : Demand) (v : Value) : Except Unfit (List Char) :=
  if d.letter = 's' then do
    tell b v
    return d.cut v.display.toList
  else if d.letter = 'r' then do
    tell b v
    return d.cut v.shown.toList
  else if d.letter = 'a' then do
    tell b v
    return d.cut (v.shown.toList.flatMap asciiChar)
  else if d.letter = 'c' then (charOf v).map fun c => [c]
  else if d.isInteger then do
    let n ← d.integerOf v
    if maxPrecision - 3 < d.precision.getD 0 then .error .outOfRange
    else do
      d.tellInteger b n
      return d.integerText n
  else if d.isFraction then (fractionOf v).map d.fractionText
  else .error .illFormed

end Demand

def fillOne (b : Json.Bounds) (d : Pattern.Directive) (f : Feed) : Except Unfit (List Char × Feed) := do
  let f ← match d.key with
    | none => .ok f
    | some key => f.lookUp key
  let (width, f) ← countOf maxWidth d.width f
  let (precision, f) ← countOf maxPrecision d.precision f
  match d.letter with
  | none => .error .illFormed
  | some letter =>
    let (v, f) ← f.take
    let width := width.getD 0
    let flags := if width < 0 then { d.flags with left := true } else d.flags
    let demand : Demand := ⟨flags, width.natAbs, precision.map Int.toNat, letter⟩
    let text ← demand.textOf b v
    if roomyWidth < demand.width then .error .tooWide else .ok (demand.pad text, f)

def fill (b : Json.Bounds) (f : Feed) : List Pattern.Piece → Except Unfit (List Char)
  | [] => if f.isSpent then .ok [] else .error .wrongKind
  | .char c :: rest => (fill b f rest).map (c :: ·)
  | .directive d :: rest => do
    let (text, f) ← fillOne b d f
    return text ++ (← fill b f rest)

/-- The pattern with its directives filled in; without values it stands as it is. -/
def message (b : Json.Bounds) (pattern : String) (arguments : Arguments) : Except Unfit String :=
  if arguments.any then
    (fill b (Feed.ofArguments arguments) (Pattern.ofText pattern)).map String.ofList
  else .ok pattern

end IntakeForms.Log
