import IntakeForms.Url.Address
import IntakeForms.Url.Domain.Mapping.Table

/-!
What a character becomes in a domain name.  Letters lose their case, and forms of
one character that differ only in looks become that character.
-/

namespace IntakeForms.Url.Domain

def lowered (c : Char) : Char := if 'A' ≤ c ∧ c ≤ 'Z' then Char.ofNat (c.toNat + 32) else c

def shifted? (n : Nat) : Option Char :=
  shifted.findSome? fun (low, high, step, target) =>
    if low ≤ n ∧ n ≤ high ∧ (n - low) % step = 0 then some (Char.ofNat (target + (n - low)))
    else none

def spelled? (n : Nat) : Option (List Char) :=
  match spelled.find? fun (low, high, _) => low ≤ n && n ≤ high with
  | none => none
  | some (low, _, texts) => (splitAt ' ' texts.toList)[n - low]?

inductive Mapped
  | kept
  | refused
  | replaced (text : List Char)
deriving DecidableEq

def mapped (c : Char) : Mapped :=
  let n := c.toNat
  if n < 0x80 then if lowered c = c then .kept else .replaced [lowered c]
  else if dropped.holds c then .replaced []
  else match shifted? n with
    | some d => .replaced [d]
    | none => match spelled? n with
      | some text => .replaced text
      | none => if refused.holds c then .refused else .kept

def mapped? (c : Char) : Option (List Char) :=
  match mapped c with
  | .kept => some [c]
  | .refused => none
  | .replaced text => some text

/-- The text of a name with every character replaced; none if one is refused. -/
def mapAll? (cs : List Char) : Option (List Char) :=
  (cs.mapM mapped?).map List.flatten

def isSettled (c : Char) : Bool := mapped c = .kept

end IntakeForms.Url.Domain
