import IntakeForms.Shape.Scalar

/-!
What the check of a flow reports: issues, figures, and the verdict made of them.
-/

namespace IntakeForms.Flow

inductive Severity
  | error
  | warning
deriving DecidableEq, Repr

structure Issue where
  severity : Severity
  code : String
  message : String
  sectionId : Option String := none
  ruleId : Option String := none
  blockId : Option String := none
deriving DecidableEq, Repr

structure Stats where
  starts : List String := []
  ends : List String := []
  unreachable : List String := []
  total : Int := 0
deriving DecidableEq, Repr

structure Report where
  isValid : Bool
  errors : List Issue := []
  warnings : List Issue := []
  stats : Stats := {}
deriving DecidableEq, Repr

def Report.messages (r : Report) : List String := r.errors.map Issue.message

def Severity.table : List (String × Severity) := [("error", .error), ("warning", .warning)]

def Severity.name : Severity → String
  | .error => "error"
  | .warning => "warning"

theorem Severity.lookup_name (s : Severity) : table.lookup s.name = some s := by
  cases s <;> decide

namespace Issue

def shape : Shape Issue := Shape.object fun es =>
  Issue.mk <$> es.required (.word "severity") (Shape.choice .notMember Severity.table)
    <*> es.required (.word "code") Shape.text
    <*> es.required (.word "message") Shape.text
    <*> es.absent ⟨"sectionId", "section_id"⟩ Shape.text
    <*> es.absent ⟨"ruleId", "rule_id"⟩ Shape.text
    <*> es.absent ⟨"blockId", "block_id"⟩ Shape.text

def write (i : Issue) : Value :=
  .object [("severity", .text i.severity.name), ("code", .text i.code),
    ("message", .text i.message), ("sectionId", .optText i.sectionId),
    ("ruleId", .optText i.ruleId), ("blockId", .optText i.blockId)]

end Issue

def writeIssues (issues : List Issue) : Value := .list (issues.map Issue.write)

namespace Stats

def shape : Shape Stats := Shape.object fun es =>
  Stats.mk <$> es.defaulted ⟨"startSections", "start_sections"⟩ [] (Shape.listOf Shape.text)
    <*> es.defaulted ⟨"endSections", "end_sections"⟩ [] (Shape.listOf Shape.text)
    <*> es.defaulted ⟨"unreachableSections", "unreachable_sections"⟩ [] (Shape.listOf Shape.text)
    <*> es.defaulted ⟨"totalSections", "total_sections"⟩ 0 Shape.whole

def write (s : Stats) : Value :=
  .object [("startSections", .texts s.starts), ("endSections", .texts s.ends),
    ("unreachableSections", .texts s.unreachable), ("totalSections", .int s.total)]

end Stats

namespace Report

def shape : Shape Report := Shape.object fun es =>
  Report.mk <$> es.required ⟨"isValid", "is_valid"⟩ Shape.flag
    <*> es.defaulted (.word "errors") [] (Shape.listOf Issue.shape)
    <*> es.defaulted (.word "warnings") [] (Shape.listOf Issue.shape)
    <*> es.defaulted (.word "stats") {} Stats.shape

def write (r : Report) : Value :=
  .object [("isValid", .bool r.isValid), ("errors", writeIssues r.errors),
    ("warnings", writeIssues r.warnings), ("stats", r.stats.write)]

end Report

end IntakeForms.Flow
