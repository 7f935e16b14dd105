import IntakeForms.Proofs.Store.Records
import IntakeForms.Service

/-! Many clients at one service.  Each request is an action; any of them may be taken
one step further at any moment, so that a call of one client may fall between any two
calls of another. -/

namespace IntakeForms

def Action.creates? {α : Type} : Action α → Option String
  | .call (.create title _ _) _ => some title
  | _ => none

namespace World

variable {σ α : Type}

def step (b : Backend σ) (now : Timestamp) : Action α → World σ → Action α × World σ
  | .done result, w => (.done result, w)
  | .call c next, w =>
    let outcome := b.run now c w.store
    let w := { w with store := outcome.state }.record outcome.entries
    match outcome.reply with
    | .ok reply => (next reply, w)
    | .error f => (.done (.error (.ofFailure f)), w)
  | .note e next, w => (next, w.record [e])
  | .announce e next, w =>
    let (publisher, entries) := w.publisher.announce e
    (next, { w with publisher := publisher }.record entries)
  | .clock next, w => (next now, w)
  | .generate prompt next, w =>
    let (text, model) := w.model.reply
    (next text, { w with model := model }.record [Reply.generated model.name prompt text])

end World

namespace Service

/-- What authors ask for while others are at work. -/
inductive Request
  | create (title workspace : String)
  | saveDraft (id : String) (draft : Draft)
  | apply (id : String) (proposal : Proposal)
  | publish (id : String)

def Request.action (settings : Settings) : Request → Action Unit
  | .create title workspace => do let _ ← Service.create title workspace
  | .saveDraft id draft => do let _ ← Service.saveDraft id draft
  | .apply id proposal => do let _ ← Service.apply settings id proposal
  | .publish id => do let _ ← Service.publish settings id

/-- The world of the service and what is left of the requests made so far. -/
structure System where
  world : World Memory
  pending : List (Action Unit)

namespace System

/-- The state of the store. -/
def store (s : System) : Memory := s.world.store

/-- No records yet, and nothing asked for. -/
structure Empty (s : System) : Prop where
  records : s.store.records = []
  pending : s.pending = []

def request (settings : Settings) (r : Request) (s : System) : System :=
  { s with pending := s.pending ++ [r.action settings] }

def advance (now : Timestamp) (i : Nat) (s : System) : System :=
  match s.pending[i]? with
  | none => s
  | some a =>
    let (rest, world) := World.step Memory.backend now a s.world
    ⟨world, s.pending.set i rest⟩

def DrawsFresh (i : Nat) (s : System) : Prop :=
  ∀ title ∈ s.pending[i]?.bind Action.creates?, s.store.Fresh title

instance (i : Nat) (s : System) : Decidable (s.DrawsFresh i) :=
  inferInstanceAs (Decidable (∀ title ∈ _, _))

end System

inductive Step (settings : Settings) (s : System) : System → Prop
  | request (r : Request) : Step settings s (s.request settings r)
  | advance (now : Timestamp) (i : Nat) : s.DrawsFresh i → Step settings s (s.advance now i)

/-- A run from `start`: the systems it went through, in order, and where it is now. -/
inductive Run (settings : Settings) (start : System) : List System → System → Prop
  | start : Run settings start [] start
  | step {past : List System} {s t : System} :
      Run settings start past s → Step settings s t → Run settings start (past ++ [s]) t

namespace Run

variable {settings : Settings} {start s : System} {past : List System}

theorem request (run : Run settings start past s) (r : Request) :
    Run settings start (past ++ [s]) (s.request settings r) :=
  run.step (.request r)

theorem advance (run : Run settings start past s) (now : Timestamp) (i : Nat)
    (fresh : s.DrawsFresh i) : Run settings start (past ++ [s]) (s.advance now i) :=
  run.step (.advance now i fresh)

end Run

end Service

end IntakeForms
