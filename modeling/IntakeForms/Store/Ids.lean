import IntakeForms.Text.Blank

/-!
Identifiers and slugs.  Both end in a part of the next text of a source that is
meant never to give the same text twice; a slug begins with the words of a title.
-/

namespace IntakeForms

/-- A source of texts and how many have been taken from it. -/
structure Ids where
  hex : Nat → String
  used : Nat

namespace Ids

def next (ids : Ids) : String × Ids :=
  (ids.hex (ids.used + 1), { ids with used := ids.used + 1 })

def idLength : Nat := 12

def suffixLength : Nat := 6

def baseLength : Nat := 48

def newId (kind : String) (ids : Ids) : String × Ids :=
  let (hex, ids) := ids.next
  (kind ++ "_" ++ Text.clip idLength hex, ids)

/-- The letters and digits of a slug that a character stands for; none where words part. -/
def slugLetters (c : Char) : List (Option Char) :=
  if c.isLower || c.isDigit then [some c]
  else if c.isUpper then [some c.toLower]
  else if c.toNat = 0x130 then [some 'i', none]
  else if c.toNat = 0x212a then [some 'k']
  else [none]

def words (letters : List (Option Char)) : List (List Char) :=
  let runs := letters.splitBy fun a b => a.isSome == b.isSome
  (runs.map fun run => run.filterMap id).filter (!·.isEmpty)

def slugBase (title : String) : String :=
  let text := String.ofList (['-'].intercalate (words (title.toList.flatMap slugLetters)))
  Text.clip baseLength (if text.isEmpty then "intake" else text)

def slug (title : String) (ids : Ids) : String × Ids :=
  let (hex, ids) := ids.next
  (slugBase title ++ "-" ++ Text.clip suffixLength hex, ids)

end Ids

end IntakeForms
