import IntakeForms.Answer.Sanitize
import IntakeForms.Answer.Schema
import IntakeForms.Section

/-!
Submissions: checking a set of answers against the sections in scope, and what is
stored of one.  Answers are bounded first; every block in scope then reads its
entry, and a number block may replace it by the number it was read as.
-/

namespace IntakeForms

open Answer

/-- A problem with the answer to one block. -/
structure Complaint where
  blockId : String
  label : String
  message : String
deriving DecidableEq, Repr

structure Verdict where
  valid : Bool
  errors : List Complaint
  sanitized : Answers
deriving DecidableEq

namespace Submission

def inScope (sections : List Section) : Option (List String) → List Section
  | none => sections
  | some visited => sections.filter fun s => s.id ∈ visited

structure Progress where
  answers : Answers
  errors : List Complaint

def checkBlock (p : Progress) (b : Block) : Progress :=
  match b.schema? with
  | none => p
  | some schema =>
    let (kept, messages) := schema.validate ((Entries.get? b.id p.answers).getD .null)
    { answers := if (Entries.get? b.id p.answers).isSome then Entries.put b.id kept p.answers
        else p.answers
      errors := p.errors ++ messages.map fun m => ⟨b.id, schema.labelText, m⟩ }

def checkSection (p : Progress) (s : Section) : Progress := s.blocks.foldl checkBlock p

def judge (sections : List Section) (visited : Option (List String)) (answers : Answers) : Verdict :=
  let p := (inScope sections visited).foldl checkSection ⟨answers, []⟩
  ⟨p.errors.isEmpty, p.errors, p.answers⟩

/-- The verdict on answers as they were sent; anything but a map is no set of answers. -/
def validate? (sections : List Section) (visited : Option (List String)) : Value → Option Verdict
  | .map entries => some (judge sections visited (sanitizeAll entries))
  | _ => none

def kindName : Value → String
  | .null => "NoneType"
  | .bool _ => "bool"
  | .int _ => "int"
  | .real _ => "float"
  | .text _ => "str"
  | .list _ => "list"
  | .map _ => "dict"
  | .moment _ => "datetime"
  | .foreign _ => "Opaque"

def notMappingMessage (v : Value) : String := "answers must be a mapping, got " ++ kindName v

def maxVisited : Nat := 100

def maxSectionId : Nat := 200

def maxMoment : Nat := 64

end Submission

/-- What is kept of how an answer set was filled in. -/
structure Trail where
  visited : List String := []
  submittedAt : Option String := none
deriving DecidableEq, Repr

namespace Trail

open Submission

def either (camel snake : String) (entries : List (Key × Value)) : Value :=
  match Value.field? camel entries with
  | some v => v
  | none => (Value.field? snake entries).getD .null

def visitedOf : Value → List String
  | .list items => (items.take maxVisited).filterMap fun
    | .text s => some (Text.clip maxSectionId s)
    | _ => none
  | _ => []

def momentOf : Value → Option String
  | .text s => some (Text.clip maxMoment s)
  | _ => none

def ofRaw : Value → Trail
  | .map entries =>
    { visited := visitedOf (either "visitedSectionIds" "visited_section_ids" entries)
      submittedAt := momentOf (either "submittedAt" "submitted_at" entries) }
  | _ => {}

end Trail

/-- A stored submission. -/
structure Submission where
  id : String
  intakeId : String
  answers : Answers
  trail : Trail
  createdAt : Timestamp
deriving DecidableEq

end IntakeForms
