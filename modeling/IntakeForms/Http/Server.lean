import IntakeForms.Http.Body
import IntakeForms.Http.Reply
import IntakeForms.Http.Route
import IntakeForms.Service

/-!
The service behind HTTP.  Every request has an identifier, its own or a fresh one,
and gets it back unless the service fails.  Submissions are limited by the address
of the client; a submission that cannot be read does not count.
-/

namespace IntakeForms.Http

/-- What does not change while the server runs.  The times of the limit can be of any kind, of
which `exact` tells the exact value. -/
structure Setup (σ τ : Type) where
  backend : Backend σ
  settings : Service.Settings
  limit : RateLimit.Limit τ
  exact : τ → Rat
  requestId : Nat → String

def Setup.reader {σ τ : Type} (setup : Setup σ τ) : Json.Bounds := setup.settings.limits.reader

structure Server (σ τ : Type) where
  world : World σ
  limiter : RateLimit.State τ
  numbered : Nat := 0

/-- The moment of a request, by the calendar and by the clock of the limit. -/
structure Moment (τ : Type) where
  now : Timestamp
  tick : τ

namespace Server

variable {σ τ α : Type}

def act (setup : Setup σ τ) (now : Timestamp) (status : Nat) (write? : α → Except Obstacle Value)
    (action : Action α) (s : Server σ τ) : Response × Server σ τ :=
  let (result, world) := s.world.run setup.backend now action
  let response := match result with
    | .ok a => .ofWritten status (write? a)
    | .error r => .ofRefusal r
  (response, { s with world := world })

def whenRead (limits : Limits) (p : Parsed α) (k : α → Server σ τ → Response × Server σ τ)
    (s : Server σ τ) : Response × Server σ τ :=
  match p with
  | .ok a => k a s
  | .problems ps => (.ofProblems limits ps, s)
  | .stuck => (.internalError, s)

def whenBody (limits : Limits) (p : Option (Parsed α))
    (k : α → Server σ τ → Response × Server σ τ) (s : Server σ τ) : Response × Server σ τ :=
  match p with
  | some p => whenRead limits p k s
  | none => (.unreadableBody, s)

def writeRecords? (rs : List Record) : Except Obstacle Value := (rs.mapM Record.write?).map .list

def writeSubmissions? (l : List Submission) : Except Obstacle Value :=
  (l.mapM Submission.write?).map .list

def writePublication (p : Record × Flow.Report) : Value :=
  let snapshot := p.1.published
  .object [("id", .text p.1.id), ("slug", .optText (snapshot.map Snapshot.slug)),
    ("publishedAt", .optText (snapshot.map fun s => s.publishedAt.iso)),
    ("warnings", Flow.writeIssues p.2.warnings)]

def writeSuggestion (p : Proposal × Flow.Report) : Value :=
  .object [("proposal", p.1.write), ("validation", p.2.write)]

def writeApplied? (p : Record × Flow.Report) : Except Obstacle Value :=
  p.1.write?.map fun v => .object [("record", v), ("validation", p.2.write)]

def writeNext (id : Option String) : Value := .object [("nextSectionId", .optText id)]

def writeId (s : Submission) : Value := .object [("id", .text s.id)]

section

variable [OfNat τ 0] [Add τ] [Sub τ] [LE τ] [LT τ] [DecidableLE τ] [DecidableLT τ]

/-- Counts the request under the address of its client, and submits only if there is room. -/
def submit (setup : Setup σ τ) (m : Moment τ) (r : Request) (slug : String) (b : SubmitBody)
    (s : Server σ τ) : Response × Server σ τ :=
  let client := clientAddress r.header? r.origin
  let (decision, limiter) := RateLimit.check setup.limit m.tick client s.limiter
  let s := { s with limiter := limiter }
  if decision.allowed then
    act setup m.now 201 (.ok <| writeId ·) (Service.submit slug (.object b.answers) b.metadataValue) s
  else (.tooMany (setup.exact decision.retryAfter), s)

def serve (setup : Setup σ τ) (m : Moment τ) (r : Request) (route : Route) :
    Server σ τ → Response × Server σ τ :=
  let limits := setup.settings.limits
  let payload := r.payload setup.reader
  match route with
  | .health => fun s => (.ofValue 200 (.object [("status", .text "ok")]), s)
  | .manual => fun s => (.ofValue 200 .null, s)
  | .create => whenBody limits (payload.required? CreateBody.shape) fun b =>
      act setup m.now 201 Record.write? (Service.create b.title b.workspace)
  | .list => act setup m.now 200 writeRecords? (Service.list (r.parameter? "workspace_id"))
  | .get id => act setup m.now 200 Record.write? (Service.get id)
  | .saveDraft id => whenBody limits (payload.required? Draft.shape) fun d =>
      act setup m.now 200 Record.write? (Service.saveDraft id d)
  | .validate id => act setup m.now 200 (.ok <| Flow.Report.write ·) (Service.validate setup.settings id)
  | .publish id => act setup m.now 200 (.ok <| writePublication ·) (Service.publish setup.settings id)
  | .generate id => whenBody limits (payload.defaulted? {} GenerateBody.shape) fun b =>
      act setup m.now 200 (.ok <| writeSuggestion ·) (Service.suggest setup.settings id b.intent)
  | .apply id => whenBody limits (payload.required? Proposal.shape) fun p =>
      act setup m.now 200 writeApplied? (Service.apply setup.settings id p)
  | .submissions id => whenRead limits r.limit fun n =>
      act setup m.now 200 writeSubmissions? (Service.submissions id n)
  | .view slug => act setup m.now 200 (fun p => p.2.write?) (Service.published slug)
  | .next slug => whenBody limits (payload.required? NextBody.shape) fun b =>
      act setup m.now 200 (.ok <| writeNext ·) (Service.next slug b.sectionId b.answers)
  | .submit slug => whenBody limits (payload.required? SubmitBody.shape) fun b =>
      submit setup m r slug b

def answer (setup : Setup σ τ) (m : Moment τ) (r : Request) (s : Server σ τ) :
    Response × Server σ τ :=
  match target r.method (Percent.decode r.path) with
  | .found route => serve setup m r route s
  | .wrongMethod => (.ofDetail 405 "Method Not Allowed", s)
  | .unknown => (.ofDetail 404 "Not Found", s)
  | .moved path => ({ status := 307, body := .null, location := some path }, s)

def identify (setup : Setup σ τ) (r : Request) (s : Server σ τ) : String × Server σ τ :=
  match (r.header? "x-request-id").filter (!·.isEmpty) with
  | some id => (id, s)
  | none => (setup.requestId (s.numbered + 1), { s with numbered := s.numbered + 1 })

def headed (r : Request) (response : Response) : Response :=
  if r.method = "HEAD" then { response with body := .null } else response

def handle (setup : Setup σ τ) (m : Moment τ) (r : Request) (s : Server σ τ) :
    Response × Server σ τ :=
  let (id, s) := s.identify setup r
  let (response, s) := s.answer setup m r
  let response := headed r response
  (if response.isInternal then response else { response with requestId := some id }, s)

end

end Server

end IntakeForms.Http
