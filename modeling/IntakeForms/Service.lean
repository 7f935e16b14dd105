import IntakeForms.Flow.Check
import IntakeForms.Service.Action

/-!
The service: authors make forms, change drafts and publish snapshots of them;
respondents are led through a snapshot and submit answers to it.  Drafts are
checked only when they are published; what is published stays as it is until the
next snapshot takes its place.
-/

namespace IntakeForms.Service

open IntakeForms.Action

structure Settings where
  policy : Flow.Policy
  generates : Bool
  limits : Limits
deriving DecidableEq, Repr

def checked (report : Flow.Report) (sections : Nat) : Log.Entry :=
  ⟨.debug, .flow, "Validated flow", [("sections", .int sections),
    ("errors", .int report.errors.length), ("warnings", .int report.warnings.length)]⟩

def codes (issues : List Flow.Issue) : Value := .texts (issues.map Flow.Issue.code)

def publishRejected (id : String) (report : Flow.Report) : Log.Entry :=
  ⟨.info, .service, "Publish rejected", [("intake_id", .text id), ("errors", codes report.errors)]⟩

def publishedForm (id : String) (s : Snapshot) (report : Flow.Report) : Log.Entry :=
  ⟨.info, .service, "Published intake", [("intake_id", .text id), ("slug", .text s.slug),
    ("sections", .int s.sections.length), ("warnings", .int report.warnings.length)]⟩

def proposalGenerated (p : Proposal) : Log.Entry :=
  ⟨.info, .proposal, "Generated routing proposal",
    [("sections", .int p.routing.length), ("rules", .int p.ruleCount)]⟩

def proposalRejected (issues : List Flow.Issue) : Log.Entry :=
  ⟨.warning, .proposal, "Rejected generated routing", [("issues", codes issues)]⟩

def blocksOf (complaints : List Complaint) : List String :=
  (Flow.distinct (complaints.map Complaint.blockId)).mergeSort fun a b => decide (a ≤ b)

def answersRejected (v : Verdict) : Log.Entry :=
  ⟨.info, .submission, "Submission failed validation",
    [("errors", .int v.errors.length), ("blocks", .texts (blocksOf v.errors))]⟩

def submissionStored (s : Submission) : Log.Entry :=
  ⟨.info, .service, "Stored submission", [("intake_id", .text s.intakeId),
    ("submission_id", .text s.id), ("answers", .int s.answers.length)]⟩

def create (title workspace : String) : Action Record := perform (.create title workspace none)

def get (id : String) : Action Record := do
  match ← perform (.get id) with
  | some r => return r
  | none => refuse (.intakeNotFound id)

def list (workspace : Option String) : Action (List Record) := perform (.list workspace)

def saveDraft (id : String) (draft : Draft) : Action Record := perform (.saveDraft id draft)

def check (policy : Flow.Policy) (sections : List Section) : Action Flow.Report := do
  let report := Flow.check policy sections
  unless sections.isEmpty do tell (checked report sections.length)
  return report

def draftOf (settings : Settings) (r : Record) : Action Draft :=
  if r.draft.sections.isEmpty then refuse .emptyDraft
  else if r.draft.isCopied settings.limits.copying then return r.draft
  else refuse .uncopied

def validate (settings : Settings) (id : String) : Action Flow.Report := do
  let draft ← draftOf settings (← get id)
  check settings.policy draft.sections

def publish (settings : Settings) (id : String) : Action (Record × Flow.Report) := do
  let record ← get id
  let draft ← draftOf settings record
  let report ← check settings.policy draft.sections
  if report.isValid then
    let snapshot := draft.freeze record.slug (← now)
    let updated ← perform (.publish id snapshot)
    tell (publishedForm id snapshot report)
    Action.publish (.published id snapshot.slug snapshot.publishedAt)
    return (updated, report)
  else
    tell (publishRejected id report)
    refuse (.publishRejected report)

def minSections : Nat := 2

def requireSound (issues : List Flow.Issue) (whenRejected : Action Unit) : Action Unit :=
  match issues with
  | [] => return ()
  | first :: _ => do
    whenRejected
    refuse (.proposalRejected first.message issues)

def unparsed : Refusal := .proposalRejected "Failed to parse generated routing" []

/-- The proposal in a reply; a reply that holds none is refused.  Only mistakes are noted. -/
def readReply (b : Json.Bounds) (text : String) : Action Proposal :=
  match Reply.document b text with
  | .error (.mistaken _) => do
    tell (Reply.notDocument text)
    refuse unparsed
  | .error .tooManyDigits => refuse unparsed
  | .error .tooDeep => refuse .replyTooDeep
  | .ok t =>
    match Proposal.shape t.value with
    | .ok p => return p
    | .problems ps => refuse (.proposalRejected (Reply.malformed ps) [])
    | .stuck => refuse .stuck

/-- Asks the text model for a proposal and checks it.  A number with too many digits to be written
is taken for a reply that cannot be parsed. -/
def propose (limits : Limits) (sections : List Section) (intent : Option String) :
    Action Proposal := do
  if sections.length < minSections then
    refuse (.proposalRejected "At least 2 sections are required to generate routing." [])
  else match Prompt.build? limits.writer sections intent with
    | .error (.unwritten .tooManyDigits) => refuse unparsed
    | .error why => refuse (.unbuilt why)
    | .ok prompt =>
      let proposal ← readReply limits.reader (← ask prompt)
      let issues := proposal.issues sections
      requireSound issues (tell (proposalRejected issues))
      tell (proposalGenerated proposal)
      return proposal

def suggest (settings : Settings) (id : String) (intent : Option String) :
    Action (Proposal × Flow.Report) := do
  if settings.generates then
    let draft ← draftOf settings (← get id)
    let proposal ← propose settings.limits draft.sections intent
    return (proposal, ← check settings.policy (proposal.apply draft.sections))
  else refuse .generationUnavailable

/-- Saves the draft with the proposal applied, after checking it against the draft once more. -/
def apply (settings : Settings) (id : String) (proposal : Proposal) :
    Action (Record × Flow.Report) := do
  let draft ← draftOf settings (← get id)
  requireSound (proposal.issues draft.sections) (return ())
  let merged := { draft with sections := proposal.apply draft.sections }
  let updated ← perform (.saveDraft id merged)
  return (updated, ← check settings.policy merged.sections)

def published (slug : String) : Action (Record × Snapshot) := do
  match ← perform (.bySlug slug) with
  | some r => match r.published with
    | some s => return (r, s)
    | none => refuse (.intakeNotFound slug)
  | none => refuse (.intakeNotFound slug)

def next (slug sectionId : String) (answers : Answer.Answers) : Action (Option String) := do
  let (_, snapshot) ← published slug
  match snapshot.sections.find? (·.id = sectionId) with
  | some s => return Flow.resolveNext s answers
  | none => refuse (.sectionNotFound slug sectionId)

/-- The sections that a respondent of a guided form is taken to have seen: those that were
named, or else those on the path of the answers. -/
def visitedBy (s : Snapshot) (named : List String) (answers : Value) : Action (List String) :=
  if named.isEmpty then
    match answers with
    | .map entries => return Flow.tracePath s.sections (Answer.sanitizeAll entries) none
    | _ => refuse .untraceable
  else return named

def trailOf (s : Snapshot) (answers metadata : Value) : Action (Trail × Option (List String)) :=
  let trail := Trail.ofRaw metadata
  match s.metadata.mode with
  | .guided => do
    let visited ← visitedBy s trail.visited answers
    return ({ trail with visited := visited }, some visited)
  | .document => return (trail, none)

def judge (sections : List Section) (visited : Option (List String)) (answers : Value) :
    Action Verdict :=
  match Submission.validate? sections visited answers with
  | some verdict => return verdict
  | none => refuse (.notAnswers answers)

/-- Stores answers that the published snapshot accepts, bounded and as they were read. -/
def submit (slug : String) (answers metadata : Value) : Action Submission := do
  let (record, snapshot) ← published slug
  let (trail, visited) ← trailOf snapshot answers metadata
  let verdict ← judge snapshot.sections visited answers
  if verdict.valid then
    let stored ← perform (.addSubmission record.id verdict.sanitized trail)
    tell (submissionStored stored)
    Action.publish (.received stored.intakeId stored.id)
    return stored
  else
    tell (answersRejected verdict)
    refuse (.submissionRejected verdict)

def submissions (id : String) (limit : Int) : Action (List Submission) :=
  perform (.submissions id limit)

end IntakeForms.Service
