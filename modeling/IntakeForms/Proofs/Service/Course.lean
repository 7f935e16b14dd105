import IntakeForms.Service.Action

/-! What an action comes to apart from the publisher and the journal.  Its course is its result,
the store and the model it leaves, and the events it announced; a run takes this course whoever
listens, and the publisher hears its events in order. -/

namespace IntakeForms

/-- What an action comes to. -/
structure Course (σ α : Type) where
  result : Except Refusal α
  store : σ
  model : Model
  events : List Event := []

namespace Course

variable {σ α β : Type}

def behind (events : List Event) (c : Course σ α) : Course σ α :=
  { c with events := events ++ c.events }

/-- The course of a second action, if the first was not refused. -/
def next (c : Course σ α) (f : α → σ → Model → Course σ β) : Course σ β :=
  match c.result with
  | .ok x => (f x c.store c.model).behind c.events
  | .error r => ⟨.error r, c.store, c.model, c.events⟩

theorem next_behind (es : List Event) (c : Course σ α) (f : α → σ → Model → Course σ β) :
    (c.behind es).next f = (c.next f).behind es := by
  simp only [next, behind]
  cases c.result with
  | ok x => simp only [List.append_assoc]
  | error r => rfl

end Course

namespace Publisher

def hear (p : Publisher) (events : List Event) : Publisher :=
  events.foldl (fun p e => (p.announce e).1) p

theorem hear_append (p : Publisher) (events later : List Event) :
    p.hear (events ++ later) = (p.hear events).hear later :=
  List.foldl_append

theorem sent_hear {p : Publisher} (h : p.delivery ≠ .absent) (events : List Event) :
    (p.hear events).sent = p.sent ++ events.map p.message := by
  induction events generalizing p with
  | nil => simp [hear]
  | cons e rest ih =>
    have hnext : (p.announce e).1 = { p with sent := p.sent ++ [p.message e] } := by
      unfold announce
      cases hd : p.delivery with
      | absent => exact absurd hd h
      | working => rfl
      | failing reason => rfl
    have hrest := @ih { p with sent := p.sent ++ [p.message e] } h
    change ((p.announce e).1.hear rest).sent = _
    rw [hnext, hrest, List.append_assoc, List.map_cons]
    rfl

end Publisher

namespace World

variable {σ α β : Type}

def course (b : Backend σ) (now : Timestamp) : Action α → σ → Model → Course σ α
  | .done result, st, model => ⟨result, st, model, []⟩
  | .call c next, st, model =>
    let outcome := b.run now c st
    match outcome.reply with
    | .ok reply => course b now (next reply) outcome.state model
    | .error f => ⟨.error (.ofFailure f), outcome.state, model, []⟩
  | .note _ next, st, model => course b now next st model
  | .announce e next, st, model => (course b now next st model).behind [e]
  | .clock next, st, model => course b now (next now) st model
  | .generate _ next, st, model => course b now (next model.reply.1) st model.reply.2

theorem course_bind (b : Backend σ) (now : Timestamp) (a : Action α) (f : α → Action β) (st : σ)
    (model : Model) :
    course b now (a >>= f) st model =
      (course b now a st model).next fun x => course b now (f x) := by
  change course b now (a.bind f) st model = _
  induction a generalizing st model with
  | done result => cases result <;> rfl
  | call c next ih =>
    simp only [Action.bind, course]
    cases (b.run now c st).reply with
    | ok reply => exact ih reply _ _
    | error f => rfl
  | note e next ih => exact ih _ _
  | announce e next ih =>
    simp only [Action.bind, course, ih]
    exact (Course.next_behind ..).symm
  | clock next ih => exact ih _ _ _
  | generate prompt next ih => exact ih _ _ _

theorem run_course (b : Backend σ) (now : Timestamp) (a : Action α) (w : World σ) :
    (run b now a w).1 = (course b now a w.store w.model).result ∧
      (run b now a w).2.store = (course b now a w.store w.model).store ∧
      (run b now a w).2.model = (course b now a w.store w.model).model ∧
      (run b now a w).2.publisher =
        w.publisher.hear (course b now a w.store w.model).events := by
  induction a generalizing w with
  | done result => exact ⟨rfl, rfl, rfl, rfl⟩
  | call c next ih =>
    simp only [run, course]
    cases (b.run now c w.store).reply with
    | ok reply => exact ih reply _
    | error f => exact ⟨rfl, rfl, rfl, rfl⟩
  | note e next ih => exact ih _
  | announce e next ih => exact ih _
  | clock next ih => exact ih _ _
  | generate prompt next ih => exact ih _ _

end World

end IntakeForms
