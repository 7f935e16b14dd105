import IntakeForms.Block

/-!
Sections of a form and the rules that lead from one to the next.
-/

namespace IntakeForms

inductive Operator
  | equals
  | any
deriving DecidableEq, Repr

/-- A rule leads to `target`; an `equals` rule only when the answer to `source` is `value`. -/
structure Rule where
  id : String
  operator : Operator
  source : Option String
  value : Option String
  target : String
deriving DecidableEq, Repr

def Rule.isFallback (r : Rule) : Bool := r.operator = .any

structure Section where
  id : String
  title : String
  description : Option String
  blocks : List Block
  rules : List Rule
deriving DecidableEq

namespace Section

def displayTitle (s : Section) : String := Block.orElse s.title "Untitled Section"

def block? (s : Section) (id : String) : Option Block := s.blocks.find? (·.id = id)

def withRules (s : Section) (rules : List Rule) : Section := { s with rules := rules }

end Section

def keptIn (sections : List Section) : List (String × Value) :=
  sections.flatMap fun s => s.blocks.flatMap Block.kept

end IntakeForms
