import IntakeForms.Proofs.Service.Contracts
import IntakeForms.Proofs.Store.Effects

/-! What the service can be asked to do.  Every operation looks, and beyond that makes the one
call and the one event that are its own, so that it obeys any contract that allows these. -/

namespace IntakeForms.Service

open Store

/-- What the service can be asked to do. -/
inductive Operation
  | create (title workspace : String)
  | get (id : String)
  | list (workspace : Option String)
  | saveDraft (id : String) (draft : Draft)
  | validate (id : String)
  | publish (id : String)
  | suggest (id : String) (intent : Option String)
  | apply (id : String) (proposal : Proposal)
  | published (slug : String)
  | next (slug sectionId : String) (answers : Answer.Answers)
  | submit (slug : String) (answers metadata : Value)
  | submissions (id : String) (limit : Int)

namespace Operation

abbrev Reply : Operation → Type
  | .create .. | .get _ | .saveDraft .. => Record
  | .list _ => List Record
  | .validate _ => Flow.Report
  | .publish _ | .apply .. => Record × Flow.Report
  | .suggest .. => Proposal × Flow.Report
  | .published _ => Record × Snapshot
  | .next .. => Option String
  | .submit .. => Submission
  | .submissions .. => List Submission

def action (settings : Settings) : (o : Operation) → Action o.Reply
  | .create title workspace => Service.create title workspace
  | .get id => Service.get id
  | .list workspace => Service.list workspace
  | .saveDraft id draft => Service.saveDraft id draft
  | .validate id => Service.validate settings id
  | .publish id => Service.publish settings id
  | .suggest id intent => Service.suggest settings id intent
  | .apply id proposal => Service.apply settings id proposal
  | .published slug => Service.published slug
  | .next slug sectionId answers => Service.next slug sectionId answers
  | .submit slug answers metadata => Service.submit slug answers metadata
  | .submissions id limit => Service.submissions id limit

/-- Carries out the operation alone, at one moment. -/
def run (settings : Settings) (k : Kind) (now : Timestamp) (o : Operation) (w : World k.State) :
    Except Refusal o.Reply × World k.State :=
  World.run k.backend now (o.action settings) w

/-- Operations that only look. -/
def reads : Operation → Bool
  | .get _ | .list _ | .validate _ | .suggest .. | .published _ | .next .. | .submissions .. => true
  | _ => false

end Operation

variable {α : Type} {K : Contract}

def Contract.Allows (K : Contract) : Operation → Prop
  | .create title workspace => K.calls (.create title workspace none)
  | .saveDraft id draft => K.calls (.saveDraft id draft)
  | .apply id proposal => ∀ r, K.replies (.get id) (some r) →
      K.calls (.saveDraft id { r.draft with sections := proposal.apply r.draft.sections })
  | .publish id => ∀ r now, K.replies (.get id) (some r) → K.moments now →
      K.calls (.publish id (r.draft.freeze r.slug now)) ∧ K.events (.published id r.slug now)
  | .submit slug _ _ => ∀ r answers trail, K.replies (.bySlug slug) (some r) →
      K.calls (.addSubmission r.id answers trail) ∧
        ∀ s, K.replies (.addSubmission r.id answers trail) s → K.events (.received s.intakeId s.id)
  | _ => True

section

variable (hreads : ∀ c : Call, c.Reads → K.calls c) (settings : Settings)

include hreads

theorem obeys_publish {id : String} (h : K.Allows (.publish id)) :
    Obeys K (fun _ => True) (Service.publish settings id) := by
  refine (obeys_get (hreads (.get id) trivial)).bind_of fun r hr => ?_
  refine (obeys_draftOf K settings r).bind_of ?_
  rintro _ rfl
  refine (obeys_check K _ _).bind_of fun report _ => ?_
  split
  · refine .bind fun now hnow => ?_
    obtain ⟨hcall, hevent⟩ := h r now hr hnow
    exact ⟨hcall, fun _ _ => ⟨hevent, True.intro⟩⟩
  · trivial

theorem obeys_apply {id : String} {proposal : Proposal} (h : K.Allows (.apply id proposal)) :
    Obeys K (fun _ => True) (Service.apply settings id proposal) := by
  refine (obeys_get (hreads (.get id) trivial)).bind_of fun r hr => ?_
  refine (obeys_draftOf K settings r).bind_of ?_
  rintro _ rfl
  refine (obeys_requireSound _ ?_).bind_of fun _ _ => ⟨h r hr, fun _ _ => ?_⟩
  · exact True.intro
  · exact (obeys_check K _ _).bind_of fun _ _ => trivial

theorem obeys_suggest (id : String) (intent : Option String) :
    Obeys K (fun _ => True) (Service.suggest settings id intent) := by
  unfold Service.suggest
  split
  · refine (obeys_get (hreads (.get id) trivial)).bind_of fun r _ => ?_
    refine (obeys_draftOf K settings r).bind_of fun draft _ => ?_
    refine (obeys_propose K _ _ _).bind_of fun proposal _ => ?_
    exact (obeys_check K _ _).bind_of fun _ _ => trivial
  · trivial

theorem obeys_submit {slug : String} {answers metadata : Value}
    (h : K.Allows (.submit slug answers metadata)) :
    Obeys K (fun _ => True) (Service.submit slug answers metadata) := by
  refine (obeys_published (hreads (.bySlug slug) trivial)).bind_of fun found hfound => ?_
  refine (obeys_trailOf K found.2 answers metadata).bind_of fun trail _ => ?_
  refine (obeys_judge K _ _ _).bind_of fun verdict _ => ?_
  split
  · obtain ⟨hcall, hevent⟩ := h found.1 verdict.sanitized trail.1 hfound
    exact ⟨hcall, fun s hs => ⟨hevent s hs, True.intro⟩⟩
  · trivial

theorem obeys_operation {o : Operation} (h : K.Allows o) :
    Obeys K (fun _ => True) (o.action settings) := by
  cases o with
  | create title workspace => exact (obeys_perform h).mono fun _ _ => trivial
  | get id => exact (obeys_get (hreads (.get id) trivial)).mono fun _ _ => trivial
  | list workspace =>
    exact (obeys_perform (hreads (.list workspace) trivial)).mono fun _ _ => trivial
  | saveDraft id draft => exact (obeys_perform h).mono fun _ _ => trivial
  | validate id =>
    refine (obeys_get (hreads (.get id) trivial)).bind_of fun r _ => ?_
    refine (obeys_draftOf K settings r).bind_of fun draft _ => ?_
    exact (obeys_check K _ _).mono fun _ _ => trivial
  | publish id => exact obeys_publish hreads settings h
  | suggest id intent => exact obeys_suggest hreads settings id intent
  | apply id proposal => exact obeys_apply hreads settings h
  | published slug =>
    exact (obeys_published (hreads (.bySlug slug) trivial)).mono fun _ _ => trivial
  | next slug sectionId answers =>
    refine (obeys_published (hreads (.bySlug slug) trivial)).bind_of fun found _ => ?_
    dsimp only
    split <;> trivial
  | submit slug answers metadata => exact obeys_submit hreads h
  | submissions id limit =>
    exact (obeys_perform (hreads (.submissions id limit) trivial)).mono fun _ _ => trivial

end

end IntakeForms.Service
