import IntakeForms.Text.Point
import IntakeForms.Value

/-!
What JSON text says.  Texts may have halves of pairs of units in them, which no text of
a value can hold: `value` makes a foreign thing of such a text, and `isWhole` tells
whether it had to.  In a value a key that was given twice keeps its last value.
-/

namespace IntakeForms.Json

inductive Tree
  | null
  | bool (b : Bool)
  | int (n : Int)
  | real (x : Binary64)
  | text (ps : List Text.Point)
  | list (items : List Tree)
  | map (members : List (List Text.Point × Tree))
deriving Inhabited

def textOf (ps : List Text.Point) : String := String.ofList (ps.map Text.Point.shown)

def textKey (ps : List Text.Point) : Key :=
  if ps.all Text.Point.isChar then .text (textOf ps) else .foreign (textOf ps)

namespace Tree

mutual

def value : Tree → Value
  | .null => .null
  | .bool b => .bool b
  | .int n => .int n
  | .real x => .real x
  | .text ps => (textKey ps).value
  | .list items => .list (values items)
  | .map members => .map (Entries.ofList (entries members))

def values : List Tree → List Value
  | [] => []
  | t :: rest => t.value :: values rest

def entries : List (List Text.Point × Tree) → List (Key × Value)
  | [] => []
  | (name, t) :: rest => (textKey name, t.value) :: entries rest

end

mutual

def isWhole : Tree → Bool
  | .text ps => ps.all Text.Point.isChar
  | .list items => areWhole items
  | .map members => membersWhole members
  | _ => true

def areWhole : List Tree → Bool
  | [] => true
  | t :: rest => t.isWhole && areWhole rest

def membersWhole : List (List Text.Point × Tree) → Bool
  | [] => true
  | (name, t) :: rest => name.all Text.Point.isChar && t.isWhole && membersWhole rest

end

end Tree

end IntakeForms.Json
