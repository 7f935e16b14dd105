import IntakeForms.Form.Document
import IntakeForms.Http.Message
import IntakeForms.RateLimit
import IntakeForms.Service.Action
import IntakeForms.Submission.Document

/-!
Responses: what was asked for, or why it was refused.  A refusal tells a client no
more than it needs; a fault of the service itself tells nothing.
-/

namespace IntakeForms.Http

namespace Response

def detail (text : String) : Value := .object [("detail", .text text)]

def ofDetail (status : Nat) (text : String) : Response := { status := status, body := detail text }

def internalError : Response := ofDetail 500 "Internal error"

def ofValue (status : Nat) (v : Value) : Response := { status := status, body := v.plain }

def ofWritten (status : Nat) : Except Obstacle Value → Response
  | .ok v => ofValue status v
  | .error _ => internalError

def stepValue : Step → Value
  | .key k => .text k
  | .index i => .int i

def problemValue (p : Problem) : Value :=
  .object [("type", .text p.fault.code), ("loc", .list (p.path.map stepValue))]

/-- A value that can be quoted to a client: its numbers are finite, its texts can be sent, and it is
not too deep. -/
def isQuoted (limits : Limits) (v : Value) : Bool :=
  v.isFinite && (v.obstacle? limits.quoting).isNone

/-- A request that could not be read.  The service quotes the faulty values to the client and fails
where it cannot. -/
def ofProblems (limits : Limits) (ps : List Problem) : Response :=
  if ps.all fun p => isQuoted limits p.input then
    { status := 422, body := .object [("detail", .list (ps.map problemValue))] }
  else internalError

def unreadableBody : Response := ofDetail 400 "There was an error parsing the body"

def tooMany (pause : Rat) : Response :=
  { ofDetail 429 "Too many requests. Please try again later." with
    retryAfter := some (RateLimit.waitSeconds pause) }

def ofReport (report : Flow.Report) : Response :=
  ofValue 422 (.object [("detail", .text "Flow validation failed"),
    ("errors", .texts report.messages),
    ("issues", Flow.writeIssues (report.errors ++ report.warnings))])

def ofVerdict (verdict : Verdict) : Response :=
  ofValue 422 (.object [("detail", .text "Submission validation failed"),
    ("errors", writeComplaints verdict.errors)])

def ofRefusal : Refusal → Response
  | .intakeNotFound _ => ofDetail 404 "Intake not found"
  | .sectionNotFound _ _ => ofDetail 404 "Section not found"
  | .generationUnavailable => ofDetail 503 Refusal.generationUnavailable.message
  | .emptyDraft => ofDetail 400 Refusal.emptyDraft.message
  | .publishRejected report => ofReport report
  | .submissionRejected verdict => ofVerdict verdict
  | .proposalRejected message issues =>
    ofValue 422 (.object [("detail", .text message), ("issues", Flow.writeIssues issues)])
  | .notAnswers _ | .untraceable | .unbuilt _ | .uncopied | .unreadable _ | .stuck
  | .missingField _ | .unwritable _ | .unordered | .replyTooDeep => internalError

def isInternal (r : Response) : Bool := r.status = 500

end Response

end IntakeForms.Http
