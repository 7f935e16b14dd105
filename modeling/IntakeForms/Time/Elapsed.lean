import IntakeForms.Number.Nearest
import IntakeForms.Time.Timestamp

/-!
Seconds as binary64 numbers, counted in whole microseconds.
-/

namespace IntakeForms

/-- The whole seconds are exact; their fraction is multiplied in binary64, and a half goes to the
even neighbour. -/
def Binary64.microseconds (x : Binary64) : Int :=
  let t := x.toRat
  let whole := t.num.tdiv t.den
  let fraction := Binary64.ofRat ((t - whole) * 1000000)
  whole * 1000000 + roundRat fraction.toRat

def Timestamp.later (t : Timestamp) (seconds : Binary64) : Timestamp :=
  Timestamp.ofMicros (t.instant + seconds.microseconds)

end IntakeForms
