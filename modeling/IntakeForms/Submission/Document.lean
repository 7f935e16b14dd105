import IntakeForms.Submission
import IntakeForms.Value.Plain

/-!
Submissions, trails and verdicts as documents.
-/

namespace IntakeForms

namespace Trail

def shape : Shape Trail := Shape.object fun es =>
  Trail.mk <$> es.defaulted ⟨"visitedSectionIds", "visited_section_ids"⟩ [] (Shape.listOf Shape.text)
    <*> es.absent ⟨"submittedAt", "submitted_at"⟩ Shape.text

def write (t : Trail) : Value :=
  .object [("visitedSectionIds", .texts t.visited), ("submittedAt", .optText t.submittedAt)]

end Trail

namespace Submission

def shape (now : Timestamp) : Shape Submission := Shape.object fun es =>
  Submission.mk <$> es.required (.word "id") Shape.text
    <*> es.required ⟨"intakeId", "intake_id"⟩ Shape.text
    <*> es.defaulted (.word "answers") [] Shape.mapping
    <*> es.defaulted (.word "metadata") {} Trail.shape
    <*> es.defaulted ⟨"createdAt", "created_at"⟩ now Shape.moment

def write (s : Submission) : Value :=
  .object [("id", .text s.id), ("intakeId", .text s.intakeId),
    ("answers", .object (Value.plainFields s.answers)), ("metadata", s.trail.write), ("createdAt", .text s.createdAt.iso)]

def write? (s : Submission) : Except Obstacle Value :=
  Value.writtenUnless (Value.fieldsObstacle? Value.maxDepth s.answers) s.write

end Submission

namespace Complaint

def shape : Shape Complaint := Shape.object fun es =>
  Complaint.mk <$> es.required ⟨"blockId", "block_id"⟩ Shape.text
    <*> es.required (.word "label") Shape.text
    <*> es.required (.word "message") Shape.text

def write (c : Complaint) : Value :=
  .object [("blockId", .text c.blockId), ("label", .text c.label), ("message", .text c.message)]

end Complaint

def writeComplaints (cs : List Complaint) : Value := .list (cs.map Complaint.write)

namespace Verdict

def shape : Shape Verdict := Shape.object fun es =>
  Verdict.mk <$> es.required (.word "valid") Shape.flag
    <*> es.defaulted (.word "errors") [] (Shape.listOf Complaint.shape)
    <*> es.defaulted (.word "sanitized") [] Shape.mapping

def write (v : Verdict) : Value :=
  .object [("valid", .bool v.valid), ("errors", writeComplaints v.errors),
    ("sanitized", .object (Value.plainFields v.sanitized))]

def write? (v : Verdict) : Except Obstacle Value :=
  Value.writtenUnless (Value.fieldsObstacle? Value.maxDepth v.sanitized) v.write

end Verdict

end IntakeForms
