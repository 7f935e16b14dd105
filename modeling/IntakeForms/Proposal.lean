import IntakeForms.Flow.Check
import IntakeForms.Section.Document

/-!
Proposed routing: rules for some sections of a flow.  A proposal is sound when it
names known sections once each and its rules pass the check of the flow; applying
it replaces the rules of the sections it names.
-/

namespace IntakeForms

structure SectionRouting where
  sectionId : String
  rules : List Rule
deriving DecidableEq, Repr

structure Proposal where
  routing : List SectionRouting
  explanation : Option String
deriving DecidableEq, Repr

namespace SectionRouting

def shape : Shape SectionRouting := Shape.object fun es =>
  SectionRouting.mk <$> es.required ⟨"sectionId", "section_id"⟩ Shape.text
    <*> es.defaulted (.word "rules") [] (Shape.listOf Rule.shape)

def write (r : SectionRouting) : Value :=
  .object [("sectionId", .text r.sectionId), ("rules", .list (r.rules.map Rule.write))]

end SectionRouting

namespace Proposal

open IntakeForms.Flow

def shape : Shape Proposal := Shape.object fun es =>
  Proposal.mk <$> es.defaulted (.word "routing") [] (Shape.listOf SectionRouting.shape)
    <*> es.absent (.word "explanation") Shape.text

def write (p : Proposal) : Value :=
  .object [("routing", .list (p.routing.map SectionRouting.write)),
    ("explanation", .optText p.explanation)]

def unknownSection (id : String) : Issue :=
  error "unknown_section" ("Proposal references non-existent section: " ++ id) id

def duplicateEntry (id : String) : Issue :=
  error "duplicate_proposal_entry" ("Proposal lists section " ++ id ++ " more than once.") id

def issuesFrom (sections : List Section) (known proposed : List String) :
    List SectionRouting → List Issue
  | [] => []
  | entry :: rest =>
    match sectionAt? sections entry.sectionId with
    | none => unknownSection entry.sectionId :: issuesFrom sections known proposed rest
    | some s =>
      if entry.sectionId ∈ proposed then
        duplicateEntry entry.sectionId :: issuesFrom sections known proposed rest
      else
        ruleIntegrity (s.withRules entry.rules) known ++ fallbackIssues (s.withRules entry.rules) ++
          issuesFrom sections known (entry.sectionId :: proposed) rest

def issues (p : Proposal) (sections : List Section) : List Issue :=
  issuesFrom sections (sections.map (·.id)) [] p.routing

def rulesFor? (p : Proposal) (id : String) : Option (List Rule) :=
  (p.routing.reverse.find? (·.sectionId = id)).map SectionRouting.rules

def applyTo (p : Proposal) (s : Section) : Section :=
  match p.rulesFor? s.id with
  | some rules => s.withRules rules
  | none => s

def apply (p : Proposal) (sections : List Section) : List Section := sections.map p.applyTo

def ruleCount (p : Proposal) : Nat := (p.routing.flatMap (·.rules)).length

end Proposal

end IntakeForms
