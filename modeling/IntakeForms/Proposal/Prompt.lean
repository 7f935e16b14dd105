import IntakeForms.Json.Writer
import IntakeForms.Text.Blank
import IntakeForms.Section
import IntakeForms.Block.Document

/-!
The request for a proposal.  It tells of every section only identifiers, titles
and captions, and the options of choice blocks.
-/

namespace IntakeForms.Prompt

def maxCaption : Nat := 60

/-- The label of a block, or else its text; a block of unknown kind may carry any value there. -/
def captionOf : Block → Value
  | .context _ t | .heading _ t _ | .quote _ t _ => .text t
  | .divider .. | .image .. | .video .. => .null
  | .question a _ _ | .imageChoice a _ _ | .links a _ | .moodboard a _ | .sorting a _ =>
    .text a.label
  | .bookCall a booking => if a.label.isEmpty then .optText booking.text else .text a.label
  | .unknown _ _ extras =>
    let label := (Entries.get? "label" extras).getD .null
    if label.truthy then label else (Entries.get? "text" extras).getD .null

def clipped? : Value → Option Value
  | .text s => some (.text (Text.clip maxCaption s))
  | .list items => some (.list (items.take maxCaption))
  | _ => none

def caption? (b : Block) : Option Value :=
  let v := captionOf b
  if v.truthy then clipped? v else some (.text "(content)")

def optionSummary (o : ImageOption) : Value :=
  .object [("id", .text o.id), ("label", .text (Block.orElse (o.label.getD "") "Untitled"))]

def details? (b : Block) : Option (List (String × Value)) :=
  match b with
  | .question a input _ => some
    ([("inputType", .text input.name), ("label", .text a.label)] ++
      match b.choices? with
      | some values => [("options", .texts values)]
      | none => [])
  | .imageChoice a _ options => some
    [("label", .text a.label), ("options", .list (options.map optionSummary))]
  | b => (caption? b).map fun v => [("label", v)]

def blockSummary? (b : Block) : Option Value :=
  (details? b).map fun fields => .object ([("id", .text b.id), ("type", .text b.kind)] ++ fields)

def sectionSummary? (s : Section) : Option Value :=
  (s.blocks.mapM blockSummary?).map fun blocks =>
    .object [("id", .text s.id), ("title", .text s.displayTitle), ("blocks", .list blocks)]

/-- The sections as the request tells of them; none if a caption has no length. -/
def summary? (sections : List Section) : Option Value :=
  (sections.mapM sectionSummary?).map .list

def instructions : String :=
  "You design the navigation of guided intake forms. Connect the\n" ++
  "sections below with routing rules that form a logical flow.\n" ++
  "\n" ++
  "Rules:\n" ++
  "1. Reply with JSON only, matching the response schema.\n" ++
  "2. Use only section ids and block ids that appear in the data.\n" ++
  "3. An \"equals\" rule needs \"fromBlockId\" and \"value\". The value must be one of the block's\n" ++
  "   options: the option text for select/multi questions, the option \"id\" for image choices.\n" ++
  "4. An \"any\" rule is the fallback; omit \"fromBlockId\" and \"value\". At most one per section.\n" ++
  "5. \"equals\" rules are evaluated before the \"any\" rule.\n" ++
  "6. Give no rules to the last logical section; it leads to completion automatically.\n" ++
  "7. Every other section needs at least one outgoing rule.\n" ++
  "\n" ++
  "Response schema:\n" ++
  "\x7b\n" ++
  "  \"routing\": [\n" ++
  "    \x7b\n" ++
  "      \"sectionId\": \"source section id\",\n" ++
  "      \"rules\": [\n" ++
  "        \x7b\"id\": \"rule_1\", \"operator\": \"equals\", \"fromBlockId\": \"block id\",\n" ++
  "         \"value\": \"option\", \"nextSectionId\": \"target section id\"\x7d\n" ++
  "      ]\n" ++
  "    \x7d\n" ++
  "  ],\n" ++
  "  \"explanation\": \"one or two sentences\"\n" ++
  "\x7d\n"

def request (intent : Option String) : String :=
  match intent with
  | none => "Create the most logical flow for these sections."
  | some s =>
    if s.isEmpty then "Create the most logical flow for these sections."
    else "Author's routing intent: \"" ++ s ++ "\""

def closing : String :=
  "Branch on select and image choice questions where the options suggest different " ++
  "paths; connect other sections with a fallback rule."

/-- Why there is no request. -/
inductive Unbuilt
  | captionLength
  | unwritten (u : Json.Unwritten)
deriving DecidableEq, Repr

def data? (b : Json.Bounds) (sections : List Section) : Except Unbuilt String :=
  match summary? sections with
  | none => .error .captionLength
  | some v => (Json.text? .page b v).mapError .unwritten

/-- The whole request; none if the sections have no summary or it cannot be written. -/
def build? (b : Json.Bounds) (sections : List Section) (intent : Option String) :
    Except Unbuilt String :=
  (data? b sections).map fun data =>
    instructions ++ "\nSections:\n" ++ data ++ "\n\n" ++ request intent ++ "\n" ++ closing

end IntakeForms.Prompt
