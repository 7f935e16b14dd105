import IntakeForms.Limits
import IntakeForms.Number.Shortest
import IntakeForms.Value

/-!
JSON text of a value.  A style fixes what is escaped, whether items stand on lines of
their own, and whether things that JSON has no form for are written as their text;
they never name an entry.  A value has a text within bounds unless `obstacle?` finds
something that stands in its way.
-/

namespace IntakeForms.Json

structure Style where
  ascii : Bool
  indent : Option Nat
  lenient : Bool

/-- One line, with every character beyond ASCII escaped and a text for everything. -/
def Style.line : Style := ⟨true, none, true⟩

def Style.page : Style := ⟨false, some 2, false⟩

def Style.gap (style : Style) (level : Nat) : String :=
  match style.indent with
  | none => ""
  | some n => "\n" ++ String.ofList (List.replicate (n * level) ' ')

def Style.comma (style : Style) (level : Nat) : String :=
  match style.indent with
  | none => ", "
  | some _ => "," ++ style.gap level

def hexDigit (n : Nat) : Char :=
  if n % 16 < 10 then Char.ofNat (48 + n % 16) else Char.ofNat (87 + n % 16)

def hex4 (n : Nat) : List Char :=
  [hexDigit (n / 4096), hexDigit (n / 256), hexDigit (n / 16), hexDigit n]

def unitEscape (n : Nat) : List Char := '\\' :: 'u' :: hex4 n

def charEscape (c : Char) : List Char :=
  let n := c.toNat
  if n < 0x10000 then unitEscape n
  else unitEscape (0xd800 + (n - 0x10000) / 0x400) ++ unitEscape (0xdc00 + (n - 0x10000) % 0x400)

def quotedChar (ascii : Bool) (c : Char) : List Char :=
  if c = '"' then ['\\', '"']
  else if c = '\\' then ['\\', '\\']
  else if c = '\n' then ['\\', 'n']
  else if c = '\r' then ['\\', 'r']
  else if c = '\t' then ['\\', 't']
  else if c.toNat = 8 then ['\\', 'b']
  else if c.toNat = 12 then ['\\', 'f']
  else if c.toNat < 0x20 then charEscape c
  else if ascii && 0x7f ≤ c.toNat then charEscape c
  else [c]

def quoted (ascii : Bool) (s : String) : String :=
  String.ofList ('"' :: (s.toList.flatMap (quotedChar ascii) ++ ['"']))

def realText (x : Binary64) : String := x.text ⟨"NaN", "Infinity"⟩

def keyText (style : Style) : Key → String
  | .text s => quoted style.ascii s
  | .null => quoted style.ascii "null"
  | .bool b => quoted style.ascii (if b then "true" else "false")
  | .int n => quoted style.ascii (toString n)
  | .real x => quoted style.ascii (realText x)
  | .foreign s => quoted style.ascii s

mutual

def write (style : Style) (level : Nat) : Value → String
  | .null => "null"
  | .bool b => if b then "true" else "false"
  | .int n => toString n
  | .real x => realText x
  | .text s => quoted style.ascii s
  | .list [] => "[]"
  | .list (v :: rest) =>
    "[" ++ style.gap (level + 1) ++ write style (level + 1) v ++
      writeItems style (level + 1) rest ++ style.gap level ++ "]"
  | .map [] => "\x7b\x7d"
  | .map ((k, v) :: rest) =>
    "\x7b" ++ style.gap (level + 1) ++ keyText style k ++ ": " ++ write style (level + 1) v ++
      writeEntries style (level + 1) rest ++ style.gap level ++ "\x7d"
  | .moment t => quoted style.ascii (t.isoPlain ' ')
  | .foreign s => quoted style.ascii s

def writeItems (style : Style) (level : Nat) : List Value → String
  | [] => ""
  | v :: rest => style.comma level ++ write style level v ++ writeItems style level rest

def writeEntries (style : Style) (level : Nat) : List (Key × Value) → String
  | [] => ""
  | (k, v) :: rest =>
    style.comma level ++ keyText style k ++ ": " ++ write style level v ++
      writeEntries style level rest

end

def text (style : Style) (v : Value) : String := write style 0 v

/-- Why a value is not written. -/
inductive Unwritten
  | formless
  | tooManyDigits
  | tooDeep
deriving DecidableEq, Repr

def wholeObstacle? (b : Bounds) (n : Int) : Option Unwritten :=
  if b.digits < digitCount n then some .tooManyDigits else none

def keyObstacle? (b : Bounds) : Key → Option Unwritten
  | .int n => wholeObstacle? b n
  | .foreign _ => some .formless
  | _ => none

@[simp] theorem keyObstacle?_text (b : Bounds) (s : String) : keyObstacle? b (.text s) = none := rfl

mutual

/-- The first thing that stands in the way of a value that may have `room` levels. -/
def obstacleIn? (style : Style) (b : Bounds) : (room : Nat) → Value → Option Unwritten
  | _, .int n => wholeObstacle? b n
  | room, .list items =>
    match room with
    | 0 => some .tooDeep
    | room + 1 => itemsObstacle? style b room items
  | room, .map entries =>
    match room with
    | 0 => some .tooDeep
    | room + 1 => entriesObstacle? style b room entries
  | _, .moment _ | _, .foreign _ => if style.lenient then none else some .formless
  | _, _ => none

def itemsObstacle? (style : Style) (b : Bounds) : (room : Nat) → List Value → Option Unwritten
  | _, [] => none
  | room, v :: rest => (obstacleIn? style b room v).or (itemsObstacle? style b room rest)

def entriesObstacle? (style : Style) (b : Bounds) :
    (room : Nat) → List (Key × Value) → Option Unwritten
  | _, [] => none
  | room, (k, v) :: rest =>
    ((keyObstacle? b k).or (obstacleIn? style b room v)).or (entriesObstacle? style b room rest)

end

def obstacle? (style : Style) (b : Bounds) (v : Value) : Option Unwritten :=
  obstacleIn? style b b.depth v

def text? (style : Style) (b : Bounds) (v : Value) : Except Unwritten String :=
  match obstacle? style b v with
  | some u => .error u
  | none => .ok (text style v)

end IntakeForms.Json
