import IntakeForms.Entries
import IntakeForms.Number.Binary64
import IntakeForms.Time.Timestamp

/-!
Values as respondents and authors send them.  Documents hold null, truth values,
whole numbers, binary64 numbers, text, lists and maps with distinct text keys; a value
from elsewhere may also have other keys, moments, and things known by their text
alone, as values and as keys.  A list stands for items in order, however they were held.
`isDocument` tells the two apart.
-/

namespace IntakeForms

inductive Key
  | text (s : String)
  | null
  | bool (b : Bool)
  | int (n : Int)
  | real (x : Binary64)
  | foreign (text : String)
deriving DecidableEq, Repr

inductive Value
  | null
  | bool (b : Bool)
  | int (n : Int)
  | real (x : Binary64)
  | text (s : String)
  | list (items : List Value)
  | map (entries : List (Key × Value))
  | moment (t : Timestamp)
  | foreign (text : String)
deriving Inhabited

def Key.value : Key → Value
  | .text s => .text s
  | .null => .null
  | .bool b => .bool b
  | .int n => .int n
  | .real x => .real x
  | .foreign s => .foreign s

/-- The number a key stands for, if it has one: a truth value counts as 0 or 1. -/
def Key.rank : Key → Key
  | .bool b => .int (if b then 1 else 0)
  | .real x => match x.toInt? with
    | some n => .int n
    | none => .real x
  | k => k

def Key.isNaN : Key → Bool
  | .real x => x.isNaN
  | _ => false

def Key.same (a b : Key) : Bool := a.rank == b.rank && !a.isNaN

namespace Value

def object (fields : List (String × Value)) : Value :=
  .map (fields.map fun (k, v) => (.text k, v))

def texts (items : List String) : Value := .list (items.map .text)

def optional {α : Type} (write : α → Value) : Option α → Value
  | none => .null
  | some a => write a

def optText : Option String → Value := optional .text

def field? (name : String) (entries : List (Key × Value)) : Option Value :=
  Entries.get? (.text name) entries

def textEntries (entries : List (Key × Value)) : List (String × Value) :=
  entries.filterMap fun
    | (.text k, v) => some (k, v)
    | _ => none

/-- A map from pairs in order of arrival: equal keys keep the first spelling and the last value. -/
def ofPairs (pairs : List (Key × Value)) : Value :=
  .map (pairs.foldl put [])
where
  put (entries : List (Key × Value)) (pair : Key × Value) : List (Key × Value) :=
    match entries with
    | [] => [pair]
    | (k, v) :: rest =>
      if k.same pair.1 then (k, pair.2) :: rest else (k, v) :: put rest pair

def truthy : Value → Bool
  | .null => false
  | .bool b => b
  | .int n => n != 0
  | .real x => !x.isZero
  | .text s => !s.isEmpty
  | .list items => !items.isEmpty
  | .map entries => !entries.isEmpty
  | .moment _ => true
  | .foreign _ => true

def blank : Value → Bool
  | .null => true
  | .text s => s.isEmpty
  | .list items => items.isEmpty
  | .map entries => entries.isEmpty
  | _ => false

mutual

def same : Value → Value → Bool
  | .null, .null => true
  | .bool a, .bool b => a == b
  | .int a, .int b => a == b
  | .real a, .real b => a == b
  | .text a, .text b => a == b
  | .list a, .list b => sameItems a b
  | .map a, .map b => sameEntries a b
  | .moment a, .moment b => a == b
  | .foreign a, .foreign b => a == b
  | _, _ => false

def sameItems : List Value → List Value → Bool
  | [], [] => true
  | a :: as, b :: bs => same a b && sameItems as bs
  | _, _ => false

def sameEntries : List (Key × Value) → List (Key × Value) → Bool
  | [], [] => true
  | (j, a) :: as, (k, b) :: bs => j == k && same a b && sameEntries as bs
  | _, _ => false

end

mutual

theorem same_iff : ∀ a b : Value, same a b = true ↔ a = b
  | .null, b => by cases b <;> simp [same]
  | .bool _, b => by cases b <;> simp [same]
  | .int _, b => by cases b <;> simp [same]
  | .real _, b => by cases b <;> simp [same]
  | .text _, b => by cases b <;> simp [same]
  | .list as, b => by cases b <;> simp [same, sameItems_iff as]
  | .map as, b => by cases b <;> simp [same, sameEntries_iff as]
  | .moment _, b => by cases b <;> simp [same]
  | .foreign _, b => by cases b <;> simp [same]

theorem sameItems_iff : ∀ as bs : List Value, sameItems as bs = true ↔ as = bs
  | [], bs => by cases bs <;> simp [sameItems]
  | a :: as, bs => by cases bs <;> simp [sameItems, same_iff a, sameItems_iff as]

theorem sameEntries_iff : ∀ as bs : List (Key × Value), sameEntries as bs = true ↔ as = bs
  | [], bs => by cases bs <;> simp [sameEntries]
  | (j, a) :: as, bs => by
    cases bs with
    | nil => simp [sameEntries]
    | cons b bs => simp [sameEntries, same_iff a, sameEntries_iff as, Prod.ext_iff]

end

instance : DecidableEq Value := fun a b => decidable_of_iff _ (same_iff a b)

mutual

def levels : Value → Nat
  | .list items => itemsLevels items + 1
  | .map entries => entriesLevels entries + 1
  | _ => 1

def itemsLevels : List Value → Nat
  | [] => 0
  | v :: rest => max v.levels (itemsLevels rest)

def entriesLevels : List (Key × Value) → Nat
  | [] => 0
  | (_, v) :: rest => max v.levels (entriesLevels rest)

end

mutual

def isDocument : Value → Bool
  | .null | .bool _ | .int _ | .real _ | .text _ => true
  | .list items => documents items
  | .map entries => documentEntries entries
  | .moment _ | .foreign _ => false

def documents : List Value → Bool
  | [] => true
  | v :: rest => v.isDocument && documents rest

def documentEntries : List (Key × Value) → Bool
  | [] => true
  | (.text k, v) :: rest =>
    v.isDocument && !(Entries.keys rest).contains (.text k) && documentEntries rest
  | _ :: _ => false

end

end Value

end IntakeForms
