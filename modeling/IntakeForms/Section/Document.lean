import IntakeForms.Block.Document
import IntakeForms.Section

/-!
Sections and rules as documents.  A routing field that is null counts as empty.
-/

namespace IntakeForms

def Operator.table : List (String × Operator) := [("equals", .equals), ("any", .any)]

def Operator.name : Operator → String
  | .equals => "equals"
  | .any => "any"

theorem Operator.lookup_name (o : Operator) : table.lookup o.name = some o := by
  cases o <;> decide

namespace Rule

def shape : Shape Rule := Shape.object fun es =>
  Rule.mk <$> es.required (.word "id") Shape.text
    <*> es.required (.word "operator") (Shape.choice .notListed Operator.table)
    <*> es.absent ⟨"fromBlockId", "from_block_id"⟩ Shape.text
    <*> es.absent (.word "value") Shape.text
    <*> es.required ⟨"nextSectionId", "next_section_id"⟩ Shape.text

def write (r : Rule) : Value :=
  .object [("id", .text r.id), ("operator", .text r.operator.name),
    ("fromBlockId", .optText r.source), ("value", .optText r.value),
    ("nextSectionId", .text r.target)]

end Rule

namespace Section

def rulesShape : Shape (List Rule)
  | .null => .ok []
  | v => Shape.listOf Rule.shape v

def shape : Shape Section := Shape.object fun es =>
  Section.mk <$> es.required (.word "id") Shape.text
    <*> es.defaulted (.word "title") "" Shape.text
    <*> es.absent (.word "description") Shape.text
    <*> es.defaulted (.word "blocks") [] (Shape.listOf Block.shape)
    <*> es.defaulted (.word "routing") [] rulesShape

def write (s : Section) : Value :=
  .object [("id", .text s.id), ("title", .text s.title), ("description", .optText s.description),
    ("blocks", .list (s.blocks.map Block.write)), ("routing", .list (s.rules.map Rule.write))]

def obstacle? (room : Nat) (s : Section) : Option Obstacle :=
  s.blocks.findSome? (Block.obstacle? room)

def write? (s : Section) : Except Obstacle Value :=
  Value.writtenUnless (s.obstacle? Value.maxDepth) s.write

end Section

end IntakeForms
