import IntakeForms.Value

/-!
Shapes: which values are read, and as what.  A shape reports every problem it
finds, in the order of its fields and items, each with the path to it.  Apart
from problems a reading can get stuck, on a kind tag that is itself a container;
being stuck outweighs any problem.
-/

namespace IntakeForms

/-- What can be wrong with a value. -/
inductive Fault
  | missing
  | notText
  | textTooLong
  | notListed
  | notMember
  | notList
  | notObject
  | noAttributes
  | notMapping
  | badKey
  | flagText
  | notFlag
  | wholeText
  | notWhole
  | fractional
  | wholeSize
  | notFinite
  | realText
  | notReal
  | momentText
  | notMoment
  | momentRange
  | tooSmall
  | tooLarge
  | notJson
deriving DecidableEq, Repr

def Fault.code : Fault → String
  | .missing => "missing"
  | .notText => "string_type"
  | .textTooLong => "string_too_long"
  | .notListed => "literal_error"
  | .notMember => "enum"
  | .notList => "tuple_type"
  | .notObject => "model_type"
  | .noAttributes => "model_attributes_type"
  | .notMapping => "dict_type"
  | .badKey => "invalid_key"
  | .flagText => "bool_parsing"
  | .notFlag => "bool_type"
  | .wholeText => "int_parsing"
  | .notWhole => "int_type"
  | .fractional => "int_from_float"
  | .wholeSize => "int_parsing_size"
  | .notFinite => "finite_number"
  | .realText => "float_parsing"
  | .notReal => "float_type"
  | .momentText => "datetime_from_date_parsing"
  | .notMoment => "datetime_type"
  | .momentRange => "datetime_parsing"
  | .tooSmall => "greater_than_equal"
  | .tooLarge => "less_than_equal"
  | .notJson => "json_invalid"

inductive Step
  | key (name : String)
  | index (i : Int)
deriving DecidableEq, Repr

/-- A fault, the path to it, and the value that has it; where something is missing, that is the
value around it. -/
structure Problem where
  fault : Fault
  path : List Step
  input : Value
deriving DecidableEq

inductive Parsed (α : Type)
  | ok (a : α)
  | problems (ps : List Problem)
  | stuck

namespace Parsed

variable {α β : Type}

def map (f : α → β) : Parsed α → Parsed β
  | ok a => ok (f a)
  | problems ps => problems ps
  | stuck => stuck

/-- Reads both sides whatever happens to the first, and keeps the problems of both. -/
def ap : Parsed (α → β) → Parsed α → Parsed β
  | ok f, ok a => ok (f a)
  | ok _, problems qs => problems qs
  | problems ps, ok _ => problems ps
  | problems ps, problems qs => problems (ps ++ qs)
  | stuck, _ => stuck
  | _, stuck => stuck

instance : Applicative Parsed where
  pure := ok
  map := map
  seq f a := ap f (a ())

def andThen (a : Parsed α) (f : α → Parsed β) : Parsed β :=
  match a with
  | ok a => f a
  | problems ps => problems ps
  | stuck => stuck

def fail (fault : Fault) (input : Value) : Parsed α := problems [⟨fault, [], input⟩]

def under (step : Step) : Parsed α → Parsed α
  | ok a => ok a
  | problems ps => problems (ps.map fun p => { p with path := step :: p.path })
  | stuck => stuck

def toOption : Parsed α → Option α
  | ok a => some a
  | _ => none

@[simp] theorem map_ok (f : α → β) (a : α) : f <$> ok a = ok (f a) := rfl

@[simp] theorem pure_eq (a : α) : (pure a : Parsed α) = ok a := rfl

@[simp] theorem seq_ok (f : α → β) (a : α) : ok f <*> ok a = ok (f a) := rfl

@[simp] theorem under_ok (step : Step) (a : α) : (ok a).under step = ok a := rfl

theorem seq_eq_ok {f : Parsed (α → β)} {a : Parsed α} {b : β} (h : f <*> a = ok b) :
    ∃ g x, f = ok g ∧ a = ok x ∧ g x = b := by
  cases f with
  | ok g =>
    cases a with
    | ok x => exact ⟨g, x, rfl, rfl, by simpa [Seq.seq, ap] using h⟩
    | problems qs => simp [Seq.seq, ap] at h
    | stuck => simp [Seq.seq, ap] at h
  | problems ps => cases a <;> simp [Seq.seq, ap] at h
  | stuck => simp [Seq.seq, ap] at h

theorem under_eq_ok {p : Parsed α} {step : Step} {a : α} (h : p.under step = ok a) : p = ok a := by
  cases p <;> simp_all [under]

end Parsed

abbrev Shape (α : Type) := Value → Parsed α

/-- The name of a field and the spelling that is tried when the first is absent. -/
structure Name where
  camel : String
  snake : String
deriving DecidableEq, Repr

def Name.word (s : String) : Name := ⟨s, s⟩

abbrev Fields := List (Key × Value)

namespace Fields

variable {α : Type}

def located (es : Fields) (name : Name) : Option (String × Value) :=
  match Value.field? name.camel es with
  | some v => some (name.camel, v)
  | none => (Value.field? name.snake es).map fun v => (name.snake, v)

def required (es : Fields) (name : Name) (shape : Shape α) : Parsed α :=
  match es.located name with
  | some (k, v) => (shape v).under (.key k)
  | none => .problems [⟨.missing, [.key name.camel], .map es⟩]

def defaulted (es : Fields) (name : Name) (default : α) (shape : Shape α) : Parsed α :=
  match es.located name with
  | some (k, v) => (shape v).under (.key k)
  | none => .ok default

end Fields

namespace Shape

variable {α : Type}

def object (read : Fields → Parsed α) : Shape α
  | .map es => read es
  | v => .fail .notObject v

def nullable (shape : Shape α) : Shape (Option α)
  | .null => .ok none
  | v => some <$> shape v

def itemsFrom (shape : Shape α) (i : Nat) : List Value → Parsed (List α)
  | [] => .ok []
  | v :: rest => List.cons <$> (shape v).under (.index i) <*> itemsFrom shape (i + 1) rest

def listOf (shape : Shape α) : Shape (List α)
  | .list items => itemsFrom shape 0 items
  | v => .fail .notList v

end Shape

def Fields.absent {α : Type} (es : Fields) (name : Name) (shape : Shape α) : Parsed (Option α) :=
  es.defaulted name none (Shape.nullable shape)

end IntakeForms
