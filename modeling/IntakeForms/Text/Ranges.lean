/-!
Sets of characters given as ranges of code points, both ends included.
-/

namespace IntakeForms.Text

abbrev Ranges := List (Nat × Nat)

def Ranges.holds (ranges : Ranges) (c : Char) : Bool :=
  ranges.any fun (low, high) => low ≤ c.toNat && c.toNat ≤ high

end IntakeForms.Text
