import IntakeForms.Number.Shortest
import IntakeForms.Text.Printable
import IntakeForms.Value

/-!
The text that stands for a value inside a message.  A text stands for itself and a
moment for its date and time; in a list or a map texts are quoted, with single
quotes unless that needs an escape and double quotes do not, and a moment is
spelled out by its parts.
-/

namespace IntakeForms

namespace Text

def lowerHex (width n : Nat) : List Char :=
  let digits := Nat.toDigits 16 n
  List.replicate (width - digits.length) '0' ++ digits

def shownChar (quote c : Char) : List Char :=
  let n := c.toNat
  if c = quote || c = '\\' then ['\\', c]
  else if c = '\n' then ['\\', 'n']
  else if c = '\r' then ['\\', 'r']
  else if c = '\t' then ['\\', 't']
  else if isPrintable c then [c]
  else if n < 0x100 then '\\' :: 'x' :: lowerHex 2 n
  else if n < 0x10000 then '\\' :: 'u' :: lowerHex 4 n
  else '\\' :: 'U' :: lowerHex 8 n

def shown (s : String) : String :=
  let quote := if s.toList.contains '\'' && !s.toList.contains '"' then '"' else '\''
  String.ofList (quote :: (s.toList.flatMap (shownChar quote) ++ [quote]))

end Text

def Binary64.shown (x : Binary64) : String := x.text ⟨"nan", "inf"⟩

def boolShown (b : Bool) : String := if b then "True" else "False"

namespace Key

def display : Key → String
  | .text s => s
  | .null => "None"
  | .bool b => boolShown b
  | .int n => toString n
  | .real x => x.shown
  | .foreign s => s

def shown : Key → String
  | .text s => Text.shown s
  | k => k.display

end Key

namespace Value

mutual

def shown : Value → String
  | .null => "None"
  | .bool b => boolShown b
  | .int n => toString n
  | .real x => x.shown
  | .text s => Text.shown s
  | .list [] => "[]"
  | .list (v :: rest) => "[" ++ v.shown ++ shownItems rest ++ "]"
  | .map [] => "\x7b\x7d"
  | .map ((k, v) :: rest) =>
    "\x7b" ++ k.shown ++ ": " ++ v.shown ++ shownEntries rest ++ "\x7d"
  | .moment t => t.described
  | .foreign s => s

def shownItems : List Value → String
  | [] => ""
  | v :: rest => ", " ++ v.shown ++ shownItems rest

def shownEntries : List (Key × Value) → String
  | [] => ""
  | (k, v) :: rest => ", " ++ k.shown ++ ": " ++ v.shown ++ shownEntries rest

end

def display : Value → String
  | .text s => s
  | .moment t => t.isoPlain ' '
  | v => v.shown

theorem display_text (s : String) : display (.text s) = s := rfl

end Value

end IntakeForms
