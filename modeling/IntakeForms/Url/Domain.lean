import IntakeForms.Url.Domain.Direction
import IntakeForms.Url.Domain.Joining
import IntakeForms.Url.Domain.Mapping
import IntakeForms.Url.Punycode

/-!
Domain names after UTS 46.  Characters are mapped and composed, then every label is
checked: the ASCII form of a label must decode to characters that need neither, no
label starts with a combining mark, joiners are at home, and a name with text from
right to left keeps to the rule for such names.
-/

namespace IntakeForms.Url.Domain

def name? (cs : List Char) : Option (List Char) := (mapAll? cs).map composed

def isAscii (c : Char) : Bool := c.toNat < 0x80

def isForbidden (c : Char) : Bool :=
  let n := c.toNat
  n ≤ 0x20 || n == 0x7f || "#/:<>?@[\\]^|%".toList.contains c

def startsWell : List Char → Bool
  | [] => true
  | c :: _ => !isMark c

def hasForm (cs : List Char) : Bool := startsWell cs && joinersPlaced cs

def maxLength : Nat := 1000

def maxCodeLength : Nat := 2000

def isSettledText (cs : List Char) : Bool :=
  cs.all isSettled && !cs.any isForbidden && !cs.contains '.' && composed cs == cs

def ofCode? (code : List Char) : Option (List Char) :=
  if code.getLast? = some '-' ∨ code.isEmpty ∨ maxCodeLength < code.length then none
  else do
    let decoded ← Punycode.decode? code
    if isSettledText decoded ∧ hasForm decoded then some decoded else none

def label? (cs : List Char) : Option (List Char) :=
  match "xn--".toList.isPrefixOf? cs with
  | some code => ofCode? code
  | none =>
    if cs.all isAscii then some cs
    else if cs.length ≤ maxLength ∧ hasForm cs then some cs else none

def isSound (name : List Char) : Bool :=
  !name.isEmpty && !name.any isForbidden &&
    match (splitAt '.' name).mapM label? with
    | none => false
    | some labels => isReadable labels

def isHost (cs : List Char) : Bool :=
  match name? cs with
  | none => false
  | some name => isSound name && (!Ipv4.endsInNumber name || Ipv4.isAddress name)

end IntakeForms.Url.Domain
