import IntakeForms.Number.Numeral
import IntakeForms.Shape
import IntakeForms.Time.Iso
import IntakeForms.Value.Display

/-!
Shapes of single values.  They are lenient: a truth value may be given as a
number or a word, a number as text, a moment as text or as seconds.
-/

namespace IntakeForms.Shape

def text : Shape String
  | .text s => .ok s
  | v => .fail .notText v

def textUpTo (limit : Nat) : Shape String
  | .text s => if s.length ≤ limit then .ok s else .fail .textTooLong (.text s)
  | v => .fail .notText v

def choice {α : Type} (fault : Fault) (table : List (String × α)) : Shape α
  | .text s => match table.lookup s with
    | some a => .ok a
    | none => .fail fault (.text s)
  | v => .fail fault v

def flagWord? (s : String) : Option Bool :=
  let word := String.ofList (s.toList.map Char.toLower)
  if word ∈ ["0", "off", "f", "false", "n", "no"] then some false
  else if word ∈ ["1", "on", "t", "true", "y", "yes"] then some true
  else none

def isWord (n : Int) : Bool := -0x8000000000000000 ≤ n && n < 0x8000000000000000

/-- Numbers other than zero and one are misspelled while they are whole and in 64 bits, and no
truth values beyond that. -/
def flag : Shape Bool := fun v =>
  let number (n : Int) : Parsed Bool :=
    if n = 0 then .ok false else if n = 1 then .ok true else .fail .flagText v
  match v with
  | .bool b => .ok b
  | .int n => if isWord n then number n else .fail .notFlag v
  | .real x => match x.toInt? with
    | some n => if isWord n && n != -0x8000000000000000 then number n else .fail .notFlag v
    | none => .fail .notFlag v
  | .text s => match flagWord? s with
    | some b => .ok b
    | none => .fail .flagText v
  | _ => .fail .notFlag v

/-- A number with a fraction part of zero counts as whole if it fits 64 bits. -/
def whole : Shape Int := fun v =>
  match v with
  | .int n => .ok n
  | .bool b => .ok (if b then 1 else 0)
  | .real x =>
    if ¬ x.isFinite then .fail .notFinite v
    else match x.toInt? with
      | some n => if isWord n && n != -0x8000000000000000 then .ok n else .fail .wholeSize v
      | none => .fail .fractional v
  | .text s => match Numeral.whole s with
    | .ok n => .ok n
    | .error .malformed => .fail .wholeText v
    | .error .tooLong => .fail .wholeSize v
  | _ => .fail .notWhole v

def real : Shape Binary64 := fun v =>
  match v with
  | .real x => .ok x
  | .int n => if (Binary64.ofInt n).isFinite then .ok (Binary64.ofInt n) else .fail .notReal v
  | .bool b => .ok (Binary64.ofInt (if b then 1 else 0))
  | .text s => match Numeral.real? s with
    | some x => .ok x
    | none => .fail .realText v
  | _ => .fail .notReal v

/-- Text that holds no moment is one fault, and a number or a date beyond the calendar another; the
calendar has no year 0. -/
def moment : Shape Timestamp := fun v =>
  let dated (otherwise : Fault) : Option Timestamp → Parsed Timestamp
    | some t => if t.year = 0 then .fail .momentRange v else .ok t
    | none => .fail otherwise v
  match v with
  | .moment t => .ok t
  | .text s => dated .momentText (Timestamp.ofText? s)
  | .int n =>
    if isWord n then dated .momentRange (Timestamp.ofWhole? n)
    else if (Binary64.ofInt n).isFinite then .fail .momentRange v
    else .fail .notMoment v
  | .real x => dated .momentRange (Timestamp.ofReal? x)
  | _ => .fail .notMoment v

def keyStep : Key → Step
  | .text s => .key s
  | .bool b => .index (if b then 1 else 0)
  | .int n => if isWord n then .index n else .key (toString n)
  | k => .key k.display

def mappingFrom : List (Key × Value) → Parsed (List (String × Value))
  | [] => .ok []
  | (.text k, v) :: rest => List.cons (k, v) <$> mappingFrom rest
  | (k, _) :: rest =>
    List.cons <$> .problems [⟨.notText, [keyStep k, .key "[key]"], k.value⟩] <*> mappingFrom rest

def mapping : Shape (List (String × Value))
  | .map entries => mappingFrom entries
  | v => .fail .notMapping v

end IntakeForms.Shape
