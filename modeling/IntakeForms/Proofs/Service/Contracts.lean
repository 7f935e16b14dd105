import IntakeForms.Proofs.Service.Course
import IntakeForms.Service

/-! What an action asks of a store and what it announces, for any store and whatever it is told.
A contract says which calls and events are allowed as long as the replies and the moment are what
it relies on; what the calls of a contract keep of a store is kept by every action that obeys it,
and an action obeys it part by part. -/

namespace IntakeForms.Service

variable {α β : Type}

structure Contract where
  calls : Call → Prop
  replies : (c : Call) → c.Reply → Prop := fun _ _ => True
  events : Event → Prop := fun _ => True
  moments : Timestamp → Prop := fun _ => True

def Obeys (K : Contract) (post : α → Prop) : Action α → Prop
  | .done (.ok x) => post x
  | .done (.error _) => True
  | .call c next => K.calls c ∧ ∀ reply, K.replies c reply → Obeys K post (next reply)
  | .note _ next => Obeys K post next
  | .announce e next => K.events e ∧ Obeys K post next
  | .clock next => ∀ t, K.moments t → Obeys K post (next t)
  | .generate _ next => ∀ text, Obeys K post (next text)

variable {K : Contract}

theorem Obeys.bind {post : β → Prop} {a : Action α} {f : α → Action β}
    (h : Obeys K (fun x => Obeys K post (f x)) a) : Obeys K post (a >>= f) := by
  change Obeys K post (a.bind f)
  induction a with
  | done result =>
    cases result with
    | ok x => exact h
    | error r => exact trivial
  | call c next ih => exact ⟨h.1, fun reply hreply => ih reply (h.2 reply hreply)⟩
  | note e next ih => exact ih h
  | announce e next ih => exact ⟨h.1, ih h.2⟩
  | clock next ih => exact fun t ht => ih t (h t ht)
  | generate prompt next ih => exact fun text => ih text (h text)

theorem Obeys.mono {post post' : α → Prop} {a : Action α} (h : Obeys K post a)
    (himp : ∀ x, post x → post' x) : Obeys K post' a := by
  induction a with
  | done result =>
    cases result with
    | ok x => exact himp x h
    | error r => exact trivial
  | call c next ih => exact ⟨h.1, fun reply hreply => ih reply (h.2 reply hreply)⟩
  | note e next ih => exact ih h
  | announce e next ih => exact ⟨h.1, ih h.2⟩
  | clock next ih => exact fun t ht => ih t (h t ht)
  | generate prompt next ih => exact fun text => ih text (h text)

theorem Obeys.bind_of {pre : α → Prop} {post : β → Prop} {a : Action α} {f : α → Action β}
    (h : Obeys K pre a) (hf : ∀ x, pre x → Obeys K post (f x)) : Obeys K post (a >>= f) :=
  .bind (h.mono hf)

theorem obeys_perform {c : Call} (h : K.calls c) : Obeys K (K.replies c) (Action.perform c) :=
  ⟨h, fun _ hreply => hreply⟩

section

variable {σ : Type} {b : Backend σ} {now : Timestamp} {P : σ → Prop} {post : α → Prop}
  {a : Action α}

/-- What the allowed calls keep of a store is kept, nothing but allowed events are announced, and
the action ends as it says. -/
theorem Obeys.course (ha : Obeys K post a) (now : Timestamp) (hnow : K.moments now)
    (hcalls : ∀ c st, K.calls c → P st → P (b.run now c st).state ∧
      ∀ reply, (b.run now c st).reply = .ok reply → K.replies c reply)
    (st : σ) (h : P st) (model : Model) :
    P (World.course b now a st model).store ∧
      (∀ e ∈ (World.course b now a st model).events, K.events e) ∧
      ∀ x, (World.course b now a st model).result = .ok x → post x := by
  induction a generalizing st model with
  | done result =>
    refine ⟨h, fun e he => absurd he List.not_mem_nil, fun x hx => ?_⟩
    obtain rfl : result = .ok x := hx
    exact ha
  | call c next ih =>
    obtain ⟨hnext, hreplies⟩ := hcalls c st ha.1 h
    rw [World.course]
    cases hreply : (b.run now c st).reply with
    | ok reply => exact ih reply (ha.2 reply (hreplies reply hreply)) _ hnext model
    | error f => exact ⟨hnext, fun e he => absurd he List.not_mem_nil, fun x hx => by cases hx⟩
  | note e next ih => exact ih ha st h model
  | announce e next ih =>
    obtain ⟨hnext, hevents, hresult⟩ := ih ha.2 st h model
    refine ⟨hnext, fun e' he' => ?_, hresult⟩
    rcases List.mem_cons.1 he' with rfl | he'
    · exact ha.1
    · exact hevents e' he'
  | clock next ih => exact ih now (ha now hnow) st h model
  | generate prompt next ih => exact ih _ (ha _) st h _

theorem Obeys.run (ha : Obeys K post a) (hnow : K.moments now)
    (hcalls : ∀ c st, K.calls c → P st → P (b.run now c st).state ∧
      ∀ reply, (b.run now c st).reply = .ok reply → K.replies c reply)
    {w : World σ} (h : P w.store) :
    P (World.run b now a w).2.store ∧ ∀ x, (World.run b now a w).1 = .ok x → post x := by
  obtain ⟨hresult, hstore, -, -⟩ := World.run_course b now a w
  obtain ⟨hnext, -, hends⟩ := ha.course now hnow hcalls w.store h w.model
  rw [hresult, hstore]
  exact ⟨hnext, hends⟩

end

section

variable {σ : Type} {b : Backend σ} {now : Timestamp} {st : σ}

def looking (b : Backend σ) (now : Timestamp) (st : σ) : Contract where
  calls c := (b.run now c st).state = st
  replies c reply := (b.run now c st).reply = .ok reply
  events _ := False
  moments t := t = now

theorem looking_kept {c : Call} {st' : σ} (hc : (looking b now st).calls c) (hst : st' = st) :
    (b.run now c st').state = st ∧
      ∀ reply, (b.run now c st').reply = .ok reply → (looking b now st).replies c reply := by
  subst hst
  exact ⟨hc, fun _ hreply => hreply⟩

theorem Obeys.look {w : World σ} {post : α → Prop} {a : Action α}
    (ha : Obeys (looking b now w.store) post a) :
    (World.run b now a w).2.store = w.store ∧ ∀ x, (World.run b now a w).1 = .ok x → post x :=
  ha.run (P := (· = w.store)) rfl (fun _ _ => looking_kept) rfl

theorem course_bind_of_looking {pre : α → Prop} {a : Action α} {f : α → Action β}
    {post : Course σ β → Prop} (ha : Obeys (looking b now st) pre a)
    (hrefused : ∀ e model, post ⟨.error e, st, model, []⟩)
    (hf : ∀ x model, pre x → post (World.course b now (f x) st model)) (model : Model) :
    post (World.course b now (a >>= f) st model) := by
  obtain ⟨hstore, hevents, hends⟩ :=
    ha.course (b := b) (P := (· = st)) now rfl (fun _ _ => looking_kept) st rfl model
  have hsilent := List.eq_nil_iff_forall_not_mem.2 hevents
  rw [World.course_bind, Course.next]
  generalize World.course b now a st model = c at hstore hends hsilent ⊢
  obtain ⟨result, store, model', events⟩ := c
  obtain rfl : store = st := hstore
  obtain rfl : events = [] := hsilent
  cases result with
  | ok x => exact hf x model' (hends x rfl)
  | error e => exact hrefused e model'

end

theorem obeys_get {id : String} (h : K.calls (.get id)) :
    Obeys K (fun r => K.replies (.get id) (some r)) (Service.get id) := by
  refine (obeys_perform h).bind_of fun found hfound => ?_
  cases found with
  | none => trivial
  | some r => exact hfound

theorem obeys_published {slug : String} (h : K.calls (.bySlug slug)) :
    Obeys K (fun found => K.replies (.bySlug slug) (some found.1)) (published slug) := by
  refine (obeys_perform h).bind_of fun found hfound => ?_
  cases found with
  | none => trivial
  | some r =>
    dsimp only
    cases r.published with
    | none => trivial
    | some s => exact hfound

theorem obeys_draftOf (K : Contract) (settings : Settings) (r : Record) :
    Obeys K (· = r.draft) (draftOf settings r) := by
  unfold draftOf
  split
  · trivial
  · split
    · rfl
    · trivial

theorem obeys_check (K : Contract) (policy : Flow.Policy) (sections : List Section) :
    Obeys K (· = Flow.check policy sections) (check policy sections) := by
  cases sections <;> rfl

theorem obeys_requireSound (issues : List Flow.Issue) {whenRejected : Action Unit}
    (h : Obeys K (fun _ => True) whenRejected) :
    Obeys K (fun _ => True) (requireSound issues whenRejected) := by
  cases issues with
  | nil => trivial
  | cons first rest => exact h.bind_of fun _ _ => trivial

theorem obeys_readReply (K : Contract) (b : Json.Bounds) (text : String) :
    Obeys K (fun _ => True) (readReply b text) := by
  unfold readReply
  split
  · trivial
  · trivial
  · trivial
  · split <;> trivial

-- whether a reply is read does not matter from here on
attribute [local irreducible] readReply

theorem obeys_propose (K : Contract) (limits : Limits) (sections : List Section)
    (intent : Option String) : Obeys K (fun _ => True) (propose limits sections intent) := by
  unfold propose
  split
  · trivial
  · split
    · trivial
    · trivial
    · refine .bind fun text => (obeys_readReply K _ text).bind_of fun p _ => ?_
      refine (obeys_requireSound _ ?_).bind_of fun _ _ => ?_
      · exact True.intro
      · exact True.intro

theorem obeys_trailOf (K : Contract) (s : Snapshot) (answers metadata : Value) :
    Obeys K (fun _ => True) (trailOf s answers metadata) := by
  unfold trailOf
  split
  · refine .bind ?_
    unfold visitedBy
    split
    · split <;> trivial
    · trivial
  · trivial

theorem obeys_judge (K : Contract) (sections : List Section) (visited : Option (List String))
    (answers : Value) : Obeys K (fun _ => True) (judge sections visited answers) := by
  unfold judge
  split <;> trivial

end IntakeForms.Service
