import IntakeForms.Value.Display

/-!
Blocks, the pieces a section is made of.  Six kinds present something, six ask
for an answer, and a block of any other kind keeps its fields as they came.
-/

namespace IntakeForms

inductive InputKind
  | short | long | select | multi | slider | number | date | file
deriving DecidableEq, Repr

inductive HeadingLevel
  | h1 | h2 | h3
deriving DecidableEq, Repr

inductive DividerStyle
  | solid | dashed | dotted
deriving DecidableEq, Repr

/-- What every block that asks for an answer has. -/
structure Ask where
  id : String
  label : String
  helperText : Option String
  required : Bool
deriving DecidableEq, Repr

structure ImageOption where
  id : String
  imageUrl : String
  label : Option String
deriving DecidableEq, Repr

structure ImageItem where
  id : String
  imageUrl : String
  caption : Option String
deriving DecidableEq, Repr

structure Booking where
  url : String
  title : Option String
  text : Option String
  buttonLabel : Option String
  openInNewTab : Option Bool
  requiredToContinue : Bool
deriving DecidableEq, Repr

inductive Block
  | context (id text : String)
  | heading (id text : String) (level : HeadingLevel)
  | divider (id : String) (style : DividerStyle)
  | image (id imageUrl : String) (alt caption : Option String)
  | video (id videoUrl : String) (caption : Option String)
  | quote (id text : String) (attribution : Option String)
  | question (ask : Ask) (input : InputKind) (options : Option (List String))
  | imageChoice (ask : Ask) (multi : Bool) (options : List ImageOption)
  | links (ask : Ask) (maxItems : Option Int)
  | moodboard (ask : Ask) (items : List ImageItem)
  | sorting (ask : Ask) (items : List ImageItem)
  | bookCall (ask : Ask) (booking : Booking)
  | unknown (id kind : String) (extras : List (String × Value))
deriving DecidableEq

namespace Block

def ask? : Block → Option Ask
  | .question a _ _ | .imageChoice a _ _ | .links a _ | .moodboard a _ | .sorting a _
  | .bookCall a _ => some a
  | _ => none

def asks (b : Block) : Bool := b.ask?.isSome

def id : Block → String
  | .context i _ | .heading i _ _ | .divider i _ | .image i _ _ _ | .video i _ _ | .quote i _ _ => i
  | .question a _ _ | .imageChoice a _ _ | .links a _ | .moodboard a _ | .sorting a _
  | .bookCall a _ => a.id
  | .unknown i _ _ => i

def kind : Block → String
  | .context .. => "context"
  | .heading .. => "heading"
  | .divider .. => "divider"
  | .image .. => "image_display"
  | .video .. => "video_embed"
  | .quote .. => "quote"
  | .question .. => "question"
  | .imageChoice .. => "image_choice"
  | .links .. => "link_preview"
  | .moodboard .. => "image_moodboard"
  | .sorting .. => "this_not_this"
  | .bookCall .. => "book_call"
  | .unknown _ k _ => k

def choices? : Block → Option (List String)
  | .question _ .select options | .question _ .multi options => some (options.getD [])
  | .imageChoice _ _ options => some (options.map ImageOption.id)
  | _ => none

def kept : Block → List (String × Value)
  | .unknown _ _ extras => extras
  | _ => []

def orElse (s : String) (fallback : String) : String := if s.isEmpty then fallback else s

/-- What a block is called in messages.  An unknown kind may carry any value as its label. -/
def label : Block → Value
  | .bookCall a booking =>
    .text (orElse a.label (orElse (booking.title.getD "") "Book a call"))
  | .unknown i _ extras =>
    match Entries.get? "label" extras with
    | some v => if v.truthy then v else .text i
    | none => .text i
  | b => match b.ask? with
    | some a => .text (orElse a.label a.id)
    | none => .text b.id

def labelText (b : Block) : String := b.label.display

end Block

end IntakeForms
