import IntakeForms.Block
import IntakeForms.Shape.Scalar
import IntakeForms.Url.Http

/-!
What a block accepts as an answer.  A blank answer is refused only where one is
required; any other answer must have the block's shape, and only numbers are
changed by being read.
-/

namespace IntakeForms

namespace Answer

inductive Expected
  | text
  | texts
  | number
  | links
  | buckets
  | flag
  | anything
deriving DecidableEq, Repr

structure Schema where
  blockId : String
  label : Value
  required : Bool
  expected : Expected
  shapeMessage : String
  requiredMessage : String
  maxItems : Option Int := none

namespace Schema

def labelText (s : Schema) : String := s.label.display

/-- A whole number stays whole and a finite fraction stays one; text is tried as either in turn. -/
def number? : Value → Option Value
  | .int n => some (.int n)
  | .real x => if x.isFinite then some (.real x) else none
  | .text s => match Numeral.whole s with
    | .ok n => some (.int n)
    | .error _ => match Numeral.real? s with
      | some x => if x.isFinite then some (.real x) else none
      | none => none
  | _ => none

def isText : Value → Bool
  | .text _ => true
  | _ => false

def isTexts : Value → Bool
  | .list items => items.all isText
  | _ => false

def isLink : Value → Bool
  | .text s => Url.isHttp s
  | .map entries =>
    (entries.all fun (k, _) => match k with
      | .text _ => true
      | _ => false) &&
      match Value.field? "url" entries with
      | some (.text s) => Url.isHttp s
      | _ => false
  | _ => false

def bucketNames : List Key := [.text "yes", .text "no"]

def isBuckets : Value → Bool
  | .map entries => entries.all fun (k, v) => bucketNames.contains k && isTexts v
  | _ => false

def isFlag (v : Value) : Bool := (Shape.flag v).toOption.isSome

def fits (e : Expected) (v : Value) : Bool :=
  match e with
  | .text => isText v
  | .texts => isTexts v
  | .number => (number? v).isSome
  | .links => match v with
    | .list items => items.all isLink
    | _ => false
  | .buckets => isBuckets v
  | .flag => isFlag v
  | .anything => true

def holdsText : Value → Bool
  | .list items => !items.isEmpty
  | _ => false

/-- An answer of the right shape that says something: a pick, or a yes to a call. -/
def answers (e : Expected) (v : Value) : Bool :=
  match e, v with
  | .buckets, .map entries => entries.any fun (_, items) => holdsText items
  | .flag, v => (Shape.flag v).toOption == some true
  | _, v => !v.blank

def tooMany (s : Schema) (v : Value) : Bool :=
  match s.maxItems, v with
  | some n, .list items => n != 0 && n < items.length
  | _, _ => false

def tooManyMessage (s : Schema) : String :=
  s.labelText ++ " accepts at most " ++ toString (s.maxItems.getD 0) ++ " item(s)"

def kept (s : Schema) (v : Value) : Value :=
  if s.expected = .number then (number? v).getD v else v

def messages (s : Schema) (v : Value) : List String :=
  if v.blank then if s.required then [s.requiredMessage] else []
  else if fits s.expected v then
    (if s.required && !answers s.expected v then [s.requiredMessage] else []) ++
      if s.tooMany v then [s.tooManyMessage] else []
  else [s.shapeMessage]

def validate (s : Schema) (v : Value) : Value × List String :=
  (if v.blank then v else s.kept v, s.messages v)

def permissive (blockId : String) (label : Value) : Schema :=
  { blockId := blockId, label := label, required := false, expected := .anything
    shapeMessage := label.display ++ " is invalid"
    requiredMessage := label.display ++ " is required" }

def ofQuestion (a : Ask) (input : InputKind) (label : String) : Schema :=
  match input with
  | .short | .long | .select | .date | .file =>
    { blockId := a.id, label := .text label, required := a.required, expected := .text
      shapeMessage := label ++ " must be text"
      requiredMessage := label ++ " is required" }
  | .multi =>
    { blockId := a.id, label := .text label, required := a.required, expected := .texts
      shapeMessage := label ++ " must be a list of options"
      requiredMessage := "Select at least one option for " ++ label }
  | .slider | .number =>
    { blockId := a.id, label := .text label, required := a.required, expected := .number
      shapeMessage := label ++ " must be a number"
      requiredMessage := label ++ " is required" }

def limit (maxItems : Option Int) : Option Int :=
  match maxItems with
  | some n => if 0 < n then some n else none
  | none => none

end Schema

def schemaOfAsk (a : Ask) : Schema := Schema.permissive a.id (.text (Block.orElse a.label a.id))

end Answer

open Answer in
def Block.schema? (b : Block) : Option Schema :=
  let label := b.labelText
  match b with
  | .question a input _ => some (Schema.ofQuestion a input label)
  | .imageChoice a true _ => some
    { blockId := a.id, label := .text label, required := a.required, expected := .texts
      shapeMessage := label ++ " must be a list of choices"
      requiredMessage := "Select at least one image for " ++ label }
  | .imageChoice a false _ => some
    { blockId := a.id, label := .text label, required := a.required, expected := .text
      shapeMessage := label ++ " must be a single choice"
      requiredMessage := label ++ " is required" }
  | .links a maxItems => some
    { blockId := a.id, label := .text label, required := a.required, expected := .links
      shapeMessage := label ++ " must contain valid absolute http(s) links"
      requiredMessage := "Add at least one link for " ++ label
      maxItems := Schema.limit maxItems }
  | .moodboard a _ => some
    { blockId := a.id, label := .text label, required := a.required, expected := .texts
      shapeMessage := label ++ " must be a ranked list of images"
      requiredMessage := "Rank at least one image for " ++ label }
  | .sorting a _ => some
    { blockId := a.id, label := .text label, required := a.required, expected := .buckets
      shapeMessage := label ++ " must sort images into 'yes' and 'no'"
      requiredMessage := "Sort at least one image for " ++ label }
  | .bookCall a booking => some
    { blockId := a.id, label := .text label, required := a.required || booking.requiredToContinue
      expected := .flag
      shapeMessage := label ++ " must be true or false"
      requiredMessage := "Book a call before continuing (" ++ label ++ ")" }
  | .unknown i _ _ => some (Schema.permissive i b.label)
  | _ => none

end IntakeForms
