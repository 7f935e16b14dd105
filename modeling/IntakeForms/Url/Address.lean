import IntakeForms.Number.Numeral

/-!
Numeric hosts.  A host whose last label is a number is an IPv4 address of one to
four parts, each decimal, octal or hexadecimal; a host in brackets is an IPv6
address.  Only the question whether the text is one is answered.
-/

namespace IntakeForms.Url

def splitAt (c : Char) (cs : List Char) : List (List Char) :=
  match cs with
  | [] => [[]]
  | d :: rest =>
    if d = c then [] :: splitAt c rest
    else match splitAt c rest with
      | [] => [[d]]
      | part :: parts => (d :: part) :: parts

namespace Ipv4

def digitIn? (base : Nat) (c : Char) : Option Nat :=
  let n := c.toNat
  let d := if 48 ≤ n ∧ n ≤ 57 then n - 48
    else if 97 ≤ n ∧ n ≤ 102 then n - 87
    else if 65 ≤ n ∧ n ≤ 70 then n - 55
    else base
  if d < base then some d else none

def natIn? (base : Nat) (cs : List Char) : Option Nat :=
  cs.foldlM (fun n c => (digitIn? base c).map (base * n + ·)) 0

/-- A part with its base: `0x` marks hexadecimal and a further leading zero octal. -/
def part? (cs : List Char) : Option Nat :=
  match cs with
  | [] => none
  | '0' :: 'x' :: ds | '0' :: 'X' :: ds => natIn? 16 ds
  | '0' :: d :: ds => natIn? 8 (d :: ds)
  | ds => natIn? 10 ds

def labels (host : List Char) : List (List Char) :=
  let parts := splitAt '.' host
  if parts.getLast? = some [] then parts.dropLast else parts

def endsInNumber (host : List Char) : Bool :=
  match (labels host).getLast? with
  | none => false
  | some last => (!last.isEmpty && last.all Numeral.isDigit) || (part? last).isSome

def isAddress (host : List Char) : Bool :=
  let parts := labels host
  match parts.mapM part? with
  | none => false
  | some numbers =>
    match numbers.reverse with
    | [] => false
    | last :: before =>
      numbers.length ≤ 4 && before.all (· ≤ 255) && last < Nat.pow 256 (4 - before.length)

end Ipv4

namespace Ipv6

def isPiece (cs : List Char) : Bool :=
  !cs.isEmpty && cs.length ≤ 4 && cs.all fun c => (Ipv4.digitIn? 16 c).isSome

def isOctet (cs : List Char) : Bool :=
  match cs with
  | [] => false
  | ['0'] => true
  | '0' :: _ => false
  | ds => ds.all Numeral.isDigit && Numeral.natOfDigits ds ≤ 255

def isDotted (cs : List Char) : Bool :=
  let parts := splitAt '.' cs
  parts.length == 4 && parts.all isOctet

/-- How many of the eight pieces a list stands for; only its last item may be dotted. -/
def weight? (dotted : Bool) : List (List Char) → Option Nat
  | [] => some 0
  | [cs] =>
    if isPiece cs then some 1 else if dotted && isDotted cs then some 2 else none
  | cs :: rest => if isPiece cs then (weight? dotted rest).map (· + 1) else none

def pieces (cs : List Char) : List (List Char) :=
  if cs.isEmpty then [] else splitAt ':' cs

def splitGap : List Char → Option (List Char × List Char)
  | ':' :: ':' :: rest => some ([], rest)
  | c :: rest => (splitGap rest).map fun (before, after) => (c :: before, after)
  | [] => none

def isAddress (cs : List Char) : Bool :=
  match splitGap cs with
  | none => weight? true (splitAt ':' cs) == some 8
  | some (before, after) =>
    match weight? false (pieces before), weight? true (pieces after) with
    | some m, some n => m + n ≤ 7
    | _, _ => false

end Ipv6

end IntakeForms.Url
