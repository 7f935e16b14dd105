import IntakeForms.Event
import IntakeForms.Flow.Issue
import IntakeForms.Proposal.Prompt
import IntakeForms.Proposal.Reply
import IntakeForms.Store.Call

/-!
Actions: what the service does, step by step.  A step is one call to the store,
one note, one event, a look at the clock, or a question to the text model; other
clients may act between any two of them.  `run` carries an action out alone.
-/

namespace IntakeForms

/-- Why the service refuses. -/
inductive Refusal
  | intakeNotFound (key : String)
  | sectionNotFound (slug id : String)
  | generationUnavailable
  | emptyDraft
  | publishRejected (report : Flow.Report)
  | submissionRejected (verdict : Verdict)
  | proposalRejected (message : String) (issues : List Flow.Issue)
  | notAnswers (sent : Value)
  | untraceable
  | unbuilt (why : Prompt.Unbuilt)
  | uncopied
  | unreadable (problems : List Problem)
  | stuck
  | missingField (name : String)
  | unwritable (obstacle : Obstacle)
  | unordered
  | replyTooDeep
deriving DecidableEq

namespace Refusal

def ofFailure : Failure → Refusal
  | .notFound id => .intakeNotFound id
  | .unreadable ps => .unreadable ps
  | .stuck => .stuck
  | .missingField name => .missingField name
  | .unwritable o => .unwritable o
  | .unordered => .unordered

def publishMessage (r : Flow.Report) : String :=
  if r.messages.isEmpty then "Flow validation failed" else "; ".intercalate r.messages

def message : Refusal → String
  | .intakeNotFound key => "Intake not found: " ++ key
  | .sectionNotFound slug id => "Section " ++ id ++ " not found in intake " ++ slug
  | .generationUnavailable => "Routing generation is not configured"
  | .emptyDraft => "Flow must have at least one section."
  | .publishRejected report => publishMessage report
  | .submissionRejected verdict =>
    "Submission rejected with " ++ toString verdict.errors.length ++ " error(s)"
  | .proposalRejected message _ => message
  | .notAnswers sent => Submission.notMappingMessage sent
  | .untraceable => "answers without entries cannot be traced"
  | .unbuilt .captionLength => "a caption has no length"
  | .unbuilt (.unwritten _) => "a caption cannot be written"
  | .uncopied => "a draft is too deep to be copied"
  | .unreadable _ => "a document cannot be read"
  | .stuck => "a kind tag is a container"
  | .missingField name => "a document has no field " ++ name
  | .unwritable _ => "a value has no written form"
  | .unordered => "documents have no order"
  | .replyTooDeep => "a reply is nested too deep"

end Refusal

inductive Action (α : Type)
  | done (result : Except Refusal α)
  | call (c : Call) (next : c.Reply → Action α)
  | note (e : Log.Entry) (next : Action α)
  | announce (e : Event) (next : Action α)
  | clock (next : Timestamp → Action α)
  | generate (prompt : String) (next : String → Action α)

namespace Action

variable {α β : Type}

def bind : Action α → (α → Action β) → Action β
  | done (.ok a), f => f a
  | done (.error r), _ => done (.error r)
  | call c next, f => call c fun reply => (next reply).bind f
  | note e next, f => note e (next.bind f)
  | announce e next, f => announce e (next.bind f)
  | clock next, f => clock fun t => (next t).bind f
  | generate prompt next, f => generate prompt fun text => (next text).bind f

instance : Monad Action where
  pure a := done (.ok a)
  bind := bind

def refuse (r : Refusal) : Action α := done (.error r)

def perform (c : Call) : Action c.Reply := call c fun reply => done (.ok reply)

def tell (e : Log.Entry) : Action Unit := note e (done (.ok ()))

def publish (e : Event) : Action Unit := announce e (done (.ok ()))

def now : Action Timestamp := clock fun t => done (.ok t)

def ask (prompt : String) : Action String := generate prompt fun text => done (.ok text)

end Action

/-- A text model that gives its replies in order and then the last one again. -/
structure Model where
  name : String
  replies : List String
  asked : Nat := 0

namespace Model

def reply (m : Model) : String × Model :=
  (((m.replies.drop m.asked).head?.or m.replies.getLast?).getD "", { m with asked := m.asked + 1 })

end Model

/-- Everything that an action can change. -/
structure World (σ : Type) where
  store : σ
  publisher : Publisher
  model : Model
  journal : List Log.Entry := []

namespace World

variable {σ α : Type}

def record (w : World σ) (entries : List Log.Entry) : World σ :=
  { w with journal := w.journal ++ entries }

def run (b : Backend σ) (now : Timestamp) : Action α → World σ → Except Refusal α × World σ
  | .done result, w => (result, w)
  | .call c next, w =>
    let outcome := b.run now c w.store
    let w := { w with store := outcome.state }.record outcome.entries
    match outcome.reply with
    | .ok reply => run b now (next reply) w
    | .error f => (.error (.ofFailure f), w)
  | .note e next, w => run b now next (w.record [e])
  | .announce e next, w =>
    let (publisher, entries) := w.publisher.announce e
    run b now next ({ w with publisher := publisher }.record entries)
  | .clock next, w => run b now (next now) w
  | .generate prompt next, w =>
    let (text, model) := w.model.reply
    run b now (next text)
      ({ w with model := model }.record [Reply.generated model.name prompt text])

theorem run_bind {β : Type} (b : Backend σ) (now : Timestamp) (a : Action α) (f : α → Action β)
    (w : World σ) :
    run b now (a.bind f) w =
      match run b now a w with
      | (.ok x, next) => run b now (f x) next
      | (.error r, next) => (.error r, next) := by
  induction a generalizing w with
  | done r => cases r <;> rfl
  | call c next ih =>
    simp only [Action.bind, run]
    cases (b.run now c w.store).reply with
    | ok reply => exact ih reply _
    | error f => rfl
  | note e next ih => exact ih _
  | announce e next ih => exact ih _
  | clock next ih => exact ih _ _
  | generate prompt next ih => exact ih _ _

end World

end IntakeForms
