/-!
What the interpreter has room for.  It varies with what is under way when a text is
read or written, so that nothing here depends on the limits that are in use.
-/

namespace IntakeForms

/-- How many digits of a whole number and how many levels of lists and maps are read or written. -/
structure Json.Bounds where
  digits : Nat
  depth : Nat

def Json.Bounds.forLength (n : Nat) : Json.Bounds := ⟨n, n⟩

def digitCount (n : Int) : Nat := (Nat.toDigits 10 n.natAbs).length

/-- The digits of a whole number that is read or written as text, and the levels of lists and maps
that are read, written, copied, and quoted to a client.  What a request for a proposal tells by
itself has six of them. -/
structure Limits where
  digits : Nat
  reading : Nat
  writing : Nat
  copying : Nat
  quoting : Nat
  roomy : 6 ≤ writing
deriving DecidableEq, Repr

namespace Limits

def usual : Limits := ⟨4300, 980, 980, 480, 900, by decide⟩

def reader (l : Limits) : Json.Bounds := ⟨l.digits, l.reading⟩

def writer (l : Limits) : Json.Bounds := ⟨l.digits, l.writing⟩

end Limits

end IntakeForms
