/-!
Punycode, the ASCII form of a label with other characters: its literal part, then
for each further character how far the insertion point moves on.
-/

namespace IntakeForms.Url.Punycode

structure State where
  output : List Char
  code : Nat
  index : Nat
  start : Nat
  weight : Nat
  threshold : Nat
  bias : Nat

def initial (literal : List Char) : State := ⟨literal, 128, 0, 0, 1, 36, 72⟩

def digit? (c : Char) : Option Nat :=
  let n := c.toNat
  if 97 ≤ n ∧ n ≤ 122 then some (n - 97)
  else if 65 ≤ n ∧ n ≤ 90 then some (n - 65)
  else if 48 ≤ n ∧ n ≤ 57 then some (n - 22)
  else none

def scaled : (fuel : Nat) → (delta k : Nat) → Nat
  | 0, delta, k => k + 36 * delta / (delta + 38)
  | fuel + 1, delta, k =>
    if 455 < delta then scaled fuel (delta / 35) (k + 36) else k + 36 * delta / (delta + 38)

def adapt (delta points : Nat) (first : Bool) : Nat :=
  let delta := if first then delta / 700 else delta / 2
  scaled 16 (delta + delta / points) 0

def clamp (k bias : Nat) : Nat :=
  if k ≤ bias then 1 else if bias + 26 ≤ k then 26 else k - bias

def maxNumber : Nat := 0xffffffff

def State.feed (s : State) (d : Nat) : Option State :=
  let index := s.index + d * s.weight
  let t := clamp s.threshold s.bias
  if maxNumber < index then none
  else if d < t then
    let points := s.output.length + 1
    let code := s.code + index / points
    let place := index % points
    if 0x10ffff < code ∨ (0xd800 ≤ code ∧ code < 0xe000) then none
    else
      let output := s.output.take place ++ Char.ofNat code :: s.output.drop place
      some ⟨output, code, place + 1, place + 1, 1, 36, adapt (index - s.start) points (s.start = 0)⟩
  else if maxNumber < s.weight * (36 - t) then none
  else some { s with index := index, weight := s.weight * (36 - t), threshold := s.threshold + 36 }

def feedAll (s : State) : List Char → Option State
  | [] => if s.weight = 1 then some s else none
  | c :: rest => do
    let d ← digit? c
    let s ← s.feed d
    feedAll s rest

/-- The literal part ends at the last hyphen, and is not empty if there is one. -/
def decode? (cs : List Char) : Option (List Char) :=
  let digits := (cs.reverse.takeWhile (· != '-')).reverse
  if cs.any (128 ≤ ·.toNat) then none
  else match cs.reverse.dropWhile (· != '-') with
    | [] => (feedAll (initial []) digits).map State.output
    | [_] => none
    | _ :: literal => (feedAll (initial literal.reverse) digits).map State.output

end IntakeForms.Url.Punycode
