import IntakeForms.Limits
import IntakeForms.Text.Blank
import IntakeForms.Value.Display

/-!
Bounding what respondents send.  Text is cut and then trimmed, lists and maps are
cut, and nesting beyond the limit collapses to null.  What has no document form
is kept as its text.  A whole number with too many digits has no text and so makes no
key: `sanitize?` fails on it, while `sanitize` is for values whose keys all have one,
as those of submissions do, which are texts.
-/

namespace IntakeForms.Answer

def maxText : Nat := 10000

def maxItems : Nat := 500

def maxKeys : Nat := 100

def maxKey : Nat := 200

def maxDepth : Nat := 8

abbrev Answers := List (String × Value)

def tidy (s : String) : String := Text.trim (Text.clip maxText s)

def keyName (k : Key) : String := Text.clip maxKey k.display

def sanitizeIn : (room : Nat) → Value → Value
  | _, .text s => .text (tidy s)
  | room + 1, .list items => .list ((items.take maxItems).map (sanitizeIn room))
  | room + 1, .map entries =>
    .object (Entries.ofList ((entries.take maxKeys).map fun (k, v) => (keyName k, sanitizeIn room v)))
  | _ + 1, .moment t => .text (tidy (t.isoPlain ' '))
  | _ + 1, .foreign s => .text (tidy s)
  | 0, .list _ | 0, .map _ | 0, .moment _ | 0, .foreign _ => .null
  | _, v => v

def sanitize (v : Value) : Value := sanitizeIn maxDepth v

def keyName? (digits : Nat) : Key → Option String
  | .int n => if digits < digitCount n then none else some (keyName (.int n))
  | k => some (keyName k)

def sanitizeIn? (digits : Nat) : (room : Nat) → Value → Option Value
  | room + 1, .list items =>
    ((items.take maxItems).mapM (sanitizeIn? digits room)).map .list
  | room + 1, .map entries =>
    ((entries.take maxKeys).mapM fun (k, v) => do
      let v ← sanitizeIn? digits room v
      let name ← keyName? digits k
      return (name, v)).map fun fields => .object (Entries.ofList fields)
  | room, v => some (sanitizeIn room v)

def sanitize? (digits : Nat) (v : Value) : Option Value := sanitizeIn? digits maxDepth v

def sanitizeAll (entries : List (Key × Value)) : Answers :=
  Entries.ofList (entries.map fun (k, v) => (keyName k, sanitize v))

end IntakeForms.Answer
