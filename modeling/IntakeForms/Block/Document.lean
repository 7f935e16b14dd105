import IntakeForms.Block
import IntakeForms.Shape.Scalar
import IntakeForms.Value.Plain

/-!
Blocks as documents.  The tag under `type` chooses the kind; a tag that is not
known, or no text, makes a block of unknown kind.  A tag that is a list or a map
cannot be looked up, and the reading gets stuck.
-/

namespace IntakeForms

def InputKind.table : List (String × InputKind) :=
  [("short", .short), ("long", .long), ("select", .select), ("multi", .multi),
    ("slider", .slider), ("number", .number), ("date", .date), ("file", .file)]

def InputKind.name : InputKind → String
  | .short => "short"
  | .long => "long"
  | .select => "select"
  | .multi => "multi"
  | .slider => "slider"
  | .number => "number"
  | .date => "date"
  | .file => "file"

theorem InputKind.lookup_name (k : InputKind) : table.lookup k.name = some k := by
  cases k <;> decide

def HeadingLevel.table : List (String × HeadingLevel) := [("h1", .h1), ("h2", .h2), ("h3", .h3)]

def HeadingLevel.name : HeadingLevel → String
  | .h1 => "h1"
  | .h2 => "h2"
  | .h3 => "h3"

theorem HeadingLevel.lookup_name (l : HeadingLevel) : table.lookup l.name = some l := by
  cases l <;> decide

def DividerStyle.table : List (String × DividerStyle) :=
  [("solid", .solid), ("dashed", .dashed), ("dotted", .dotted)]

def DividerStyle.name : DividerStyle → String
  | .solid => "solid"
  | .dashed => "dashed"
  | .dotted => "dotted"

theorem DividerStyle.lookup_name (s : DividerStyle) : table.lookup s.name = some s := by
  cases s <;> decide

def Ask.read (es : Fields) : Parsed Ask :=
  Ask.mk <$> es.required (.word "id") Shape.text
    <*> es.defaulted (.word "label") "" Shape.text
    <*> es.absent ⟨"helperText", "helper_text"⟩ Shape.text
    <*> es.defaulted (.word "required") false Shape.flag

def Ask.write (a : Ask) : List (String × Value) :=
  [("id", .text a.id), ("label", .text a.label), ("helperText", .optText a.helperText),
    ("required", .bool a.required)]

def ImageOption.shape : Shape ImageOption := Shape.object fun es =>
  ImageOption.mk <$> es.required (.word "id") Shape.text
    <*> es.defaulted ⟨"imageUrl", "image_url"⟩ "" Shape.text
    <*> es.absent (.word "label") Shape.text

def ImageOption.write (o : ImageOption) : Value :=
  .object [("id", .text o.id), ("imageUrl", .text o.imageUrl), ("label", .optText o.label)]

def ImageItem.shape : Shape ImageItem := Shape.object fun es =>
  ImageItem.mk <$> es.required (.word "id") Shape.text
    <*> es.defaulted ⟨"imageUrl", "image_url"⟩ "" Shape.text
    <*> es.absent (.word "caption") Shape.text

def ImageItem.write (i : ImageItem) : Value :=
  .object [("id", .text i.id), ("imageUrl", .text i.imageUrl), ("caption", .optText i.caption)]

def Booking.read (es : Fields) : Parsed Booking :=
  Booking.mk <$> es.defaulted ⟨"bookingUrl", "booking_url"⟩ "" Shape.text
    <*> es.absent (.word "title") Shape.text
    <*> es.absent (.word "text") Shape.text
    <*> es.absent ⟨"buttonLabel", "button_label"⟩ Shape.text
    <*> es.absent ⟨"openInNewTab", "open_in_new_tab"⟩ Shape.flag
    <*> es.defaulted ⟨"requiredToContinue", "required_to_continue"⟩ false Shape.flag

def Booking.write (b : Booking) : List (String × Value) :=
  [("bookingUrl", .text b.url), ("title", .optText b.title), ("text", .optText b.text),
    ("buttonLabel", .optText b.buttonLabel), ("openInNewTab", .optional .bool b.openInNewTab),
    ("requiredToContinue", .bool b.requiredToContinue)]

namespace Block

def readContext (es : Fields) : Parsed Block :=
  Block.context <$> es.required (.word "id") Shape.text <*> es.defaulted (.word "text") "" Shape.text

def readHeading (es : Fields) : Parsed Block :=
  Block.heading <$> es.required (.word "id") Shape.text
    <*> es.defaulted (.word "text") "" Shape.text
    <*> es.defaulted (.word "level") .h2 (Shape.choice .notListed HeadingLevel.table)

def readDivider (es : Fields) : Parsed Block :=
  Block.divider <$> es.required (.word "id") Shape.text
    <*> es.defaulted (.word "style") .solid (Shape.choice .notListed DividerStyle.table)

def readImage (es : Fields) : Parsed Block :=
  Block.image <$> es.required (.word "id") Shape.text
    <*> es.defaulted ⟨"imageUrl", "image_url"⟩ "" Shape.text
    <*> es.absent (.word "alt") Shape.text
    <*> es.absent (.word "caption") Shape.text

def readVideo (es : Fields) : Parsed Block :=
  Block.video <$> es.required (.word "id") Shape.text
    <*> es.defaulted ⟨"videoUrl", "video_url"⟩ "" Shape.text
    <*> es.absent (.word "caption") Shape.text

def readQuote (es : Fields) : Parsed Block :=
  Block.quote <$> es.required (.word "id") Shape.text
    <*> es.defaulted (.word "text") "" Shape.text
    <*> es.absent (.word "attribution") Shape.text

def readQuestion (es : Fields) : Parsed Block :=
  Block.question <$> Ask.read es
    <*> es.defaulted ⟨"inputType", "input_type"⟩ .short (Shape.choice .notListed InputKind.table)
    <*> es.absent (.word "options") (Shape.listOf Shape.text)

def readImageChoice (es : Fields) : Parsed Block :=
  Block.imageChoice <$> Ask.read es
    <*> es.defaulted (.word "multi") false Shape.flag
    <*> es.defaulted (.word "options") [] (Shape.listOf ImageOption.shape)

def readLinks (es : Fields) : Parsed Block :=
  Block.links <$> Ask.read es <*> es.absent ⟨"maxItems", "max_items"⟩ Shape.whole

def readMoodboard (es : Fields) : Parsed Block :=
  Block.moodboard <$> Ask.read es <*> es.defaulted (.word "items") [] (Shape.listOf ImageItem.shape)

def readSorting (es : Fields) : Parsed Block :=
  Block.sorting <$> Ask.read es <*> es.defaulted (.word "items") [] (Shape.listOf ImageItem.shape)

def readBookCall (es : Fields) : Parsed Block :=
  Block.bookCall <$> Ask.read es <*> Booking.read es

def extras : Fields → Parsed (List (String × Value))
  | [] => .ok []
  | (.text k, v) :: rest =>
    if k = "id" ∨ k = "type" then extras rest else List.cons (k, v) <$> extras rest
  | (k, _) :: rest => List.cons <$> .problems [⟨.badKey, [Shape.keyStep k], k.value⟩] <*> extras rest

def readUnknown (es : Fields) : Parsed Block :=
  Block.unknown <$> es.required (.word "id") Shape.text <*> es.required (.word "type") Shape.text <*> extras es

def readers : List (String × (Fields → Parsed Block)) :=
  [("context", readContext), ("heading", readHeading), ("divider", readDivider),
    ("image_display", readImage), ("video_embed", readVideo), ("quote", readQuote),
    ("question", readQuestion), ("image_choice", readImageChoice), ("link_preview", readLinks),
    ("image_moodboard", readMoodboard), ("this_not_this", readSorting),
    ("book_call", readBookCall)]

def readTagged (tag : String) (es : Fields) : Parsed Block :=
  match readers.lookup tag with
  | some read => (read es).under (.key tag)
  | none => (readUnknown es).under (.key "unknown")

def shape : Shape Block
  | .map es =>
    match Value.field? "type" es with
    | some (.list _) | some (.map _) => .stuck
    | some (.text tag) => readTagged tag es
    | _ => (readUnknown es).under (.key "unknown")
  | v => (Parsed.fail .notObject v).under (.key "unknown")

def tagged (b : Block) (fields : List (String × Value)) : Value :=
  .object (("type", .text b.kind) :: fields)

def write (b : Block) : Value :=
  b.tagged <| match b with
  | .context i t => [("id", .text i), ("text", .text t)]
  | .heading i t l => [("id", .text i), ("text", .text t), ("level", .text l.name)]
  | .divider i s => [("id", .text i), ("style", .text s.name)]
  | .image i url alt caption =>
    [("id", .text i), ("imageUrl", .text url), ("alt", .optText alt), ("caption", .optText caption)]
  | .video i url caption =>
    [("id", .text i), ("videoUrl", .text url), ("caption", .optText caption)]
  | .quote i t a => [("id", .text i), ("text", .text t), ("attribution", .optText a)]
  | .question a input options =>
    a.write ++ [("inputType", .text input.name), ("options", .optional .texts options)]
  | .imageChoice a multi options =>
    a.write ++ [("multi", .bool multi), ("options", .list (options.map ImageOption.write))]
  | .links a maxItems => a.write ++ [("maxItems", .optional .int maxItems)]
  | .moodboard a items | .sorting a items =>
    a.write ++ [("items", .list (items.map ImageItem.write))]
  | .bookCall a booking => a.write ++ booking.write
  | .unknown i _ extras => ("id", .text i) :: Value.plainFields extras

def obstacle? (room : Nat) : Block → Option Obstacle
  | .unknown _ _ extras => Value.fieldsObstacle? room extras
  | _ => none

def write? (b : Block) : Except Obstacle Value :=
  Value.writtenUnless (b.obstacle? Value.maxDepth) b.write

end Block

end IntakeForms
