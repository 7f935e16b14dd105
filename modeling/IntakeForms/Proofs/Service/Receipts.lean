import IntakeForms.Proofs.Service.Atomicity
import IntakeForms.Proofs.Service.Respondents
import IntakeForms.Proofs.Store.Keeping

/-! Where submissions come from, over either store and with no care taken of what is drawn or
handed in.  Only a request to submit brings one; once the form has been found by its slug the
outcome depends on the snapshot alone, so whatever is held at the end of a history was the reply
to one of its requests. -/

namespace IntakeForms.Service

open Store Answer

variable {α β : Type} {k : Kind} {now : Timestamp}

def bringsNone : Contract where
  calls c := ¬ c.Brings

def Quiet (a : Action α) : Prop := Obeys bringsNone (fun _ => True) a

theorem not_brings_of_reads {c : Call} (h : c.Reads) : bringsNone.calls c := by
  cases c <;> first | exact not_false | exact h.elim

theorem Quiet.run {P : Submission → Prop} {a : Action α} (ha : Quiet a) {w : World k.State}
    (h : k.Files P w.store) : k.Files P (World.run k.backend now a w).2.store :=
  (Obeys.run (P := k.Files P) ha trivial
    (fun _ _ hc hst => ⟨hst.run now hc, fun _ _ => trivial⟩) h).1

theorem quiet_operation (settings : Settings) {o : Operation}
    (ho : ∀ slug answers metadata, o ≠ .submit slug answers metadata) :
    Quiet (o.action settings) := by
  refine obeys_operation (fun _ => not_brings_of_reads) settings ?_
  cases o with
  | submit slug answers metadata => exact absurd rfl (ho slug answers metadata)
  | create title workspace => exact not_false
  | saveDraft id draft => exact not_false
  | apply id proposal => exact fun _ _ => not_false
  | publish id => exact fun _ _ _ _ => ⟨not_false, trivial⟩
  | _ => trivial

variable {P : Submission → Prop} {w : World k.State} {slug : String} {r : Record}
  {snapshot : Snapshot}

theorem store_published (k : Kind) (now : Timestamp) (slug : String) (w : World k.State) :
    (World.run k.backend now (published slug) w).2.store = w.store :=
  (obeys_published (k.state_bySlug now slug w.store)).look.1

theorem reply_of_published
    (h : (World.run k.backend now (published slug) w).1 = .ok (r, snapshot)) :
    (k.backend.run now (.bySlug slug) w.store).reply = .ok (some r) :=
  (obeys_published (k.state_bySlug now slug w.store)).look.2 _ h

/-- The path that the service traces for a set of answers. -/
def traced (snapshot : Snapshot) (entries : List (Key × Value)) : List String :=
  Flow.tracePath snapshot.sections (sanitizeAll entries) none

def keptTrail (snapshot : Snapshot) (entries : List (Key × Value)) (metadata : Value) : Trail :=
  { Trail.ofRaw metadata with
    visited := if snapshot.metadata.mode = .guided ∧ (Trail.ofRaw metadata).visited = [] then
        traced snapshot entries
      else (Trail.ofRaw metadata).visited }

def judged (snapshot : Snapshot) (entries : List (Key × Value)) (metadata : Value) :
    Option (List String) :=
  if snapshot.metadata.mode = .guided then some (keptTrail snapshot entries metadata).visited
  else none

theorem trailOf_map (snapshot : Snapshot) (entries : List (Key × Value)) (metadata : Value) :
    trailOf snapshot (.map entries) metadata =
      return (keptTrail snapshot entries metadata, judged snapshot entries metadata) := by
  cases hmode : snapshot.metadata.mode with
  | document => simp [trailOf, keptTrail, judged, hmode]
  | guided =>
    cases hvisited : (Trail.ofRaw metadata).visited <;>
      simp [trailOf, keptTrail, judged, traced, visitedBy, hmode, hvisited, bind, pure,
        Action.bind]

def verdictOn (snapshot : Snapshot) (entries : List (Key × Value)) (metadata : Value) : Verdict :=
  Submission.judge snapshot.sections (judged snapshot entries metadata) (sanitizeAll entries)

def receipt (ids : Ids) (now : Timestamp) (r : Record) (snapshot : Snapshot)
    (entries : List (Key × Value)) (metadata : Value) : Submission :=
  ⟨(Ids.newId "sub" ids).1, r.id, (verdictOn snapshot entries metadata).sanitized,
    keptTrail snapshot entries metadata, now⟩

def deliver (r : Record) (verdict : Verdict) (trail : Trail) : Action Submission := do
  if verdict.valid then
    let stored ← Action.perform (.addSubmission r.id verdict.sanitized trail)
    Action.tell (submissionStored stored)
    Action.publish (.received stored.intakeId stored.id)
    return stored
  else
    Action.tell (answersRejected verdict)
    Action.refuse (.submissionRejected verdict)

theorem submit_map (slug : String) (entries : List (Key × Value)) (metadata : Value) :
    submit slug (.map entries) metadata = published slug >>= fun found =>
      deliver found.1 (verdictOn found.2 entries metadata)
        (keptTrail found.2 entries metadata) := by
  unfold submit
  refine congrArg (published slug >>= ·) (funext fun found => ?_)
  simp only [trailOf_map]
  rfl

theorem run_deliver_valid {σ : Type} {b : Backend σ} {w : World σ} {verdict : Verdict}
    {trail : Trail} {s : Submission} (hvalid : verdict.valid = true)
    (hreply : (b.run now (.addSubmission r.id verdict.sanitized trail) w.store).reply = .ok s) :
    (World.run b now (deliver r verdict trail) w).1 = .ok s ∧
      (World.run b now (deliver r verdict trail) w).2.store =
        (b.run now (.addSubmission r.id verdict.sanitized trail) w.store).state := by
  simp only [deliver, hvalid, if_true, bind, Action.perform, Action.bind, World.run, hreply]
  exact ⟨rfl, rfl⟩

theorem run_deliver (h : k.Files P w.store)
    (hr : (k.backend.run now (.bySlug slug) w.store).reply = .ok (some r)) (verdict : Verdict)
    (trail : Trail) {s : Submission}
    (hs : s = ⟨(Ids.newId "sub" (k.ids w.store)).1, r.id, verdict.sanitized, trail, now⟩) :
    (World.run k.backend now (deliver r verdict trail) w).1 =
        (if verdict.valid then .ok s else .error (.submissionRejected verdict)) ∧
      ((verdict.valid = true → P s) →
        k.Files P (World.run k.backend now (deliver r verdict trail) w).2.store) := by
  obtain ⟨hreply, hnext⟩ := h.receive hr verdict.sanitized trail
  rw [← hs] at hreply hnext
  cases hvalid : verdict.valid with
  | false =>
    simp only [deliver, hvalid]
    exact ⟨rfl, fun _ => h⟩
  | true =>
    obtain ⟨hok, hstore⟩ := run_deliver_valid hvalid hreply
    rw [hok, hstore]
    exact ⟨rfl, fun hP => hnext (hP rfl)⟩

theorem run_submit_map (h : k.Files P w.store)
    (hfound : (World.run k.backend now (published slug) w).1 = .ok (r, snapshot))
    (entries : List (Key × Value)) (metadata : Value) :
    (World.run k.backend now (submit slug (.map entries) metadata) w).1 =
        (if (verdictOn snapshot entries metadata).valid then
          .ok (receipt (k.ids w.store) now r snapshot entries metadata)
        else .error (.submissionRejected (verdictOn snapshot entries metadata))) ∧
      (((verdictOn snapshot entries metadata).valid = true →
          P (receipt (k.ids w.store) now r snapshot entries metadata)) →
        k.Files P (World.run k.backend now (submit slug (.map entries) metadata) w).2.store) := by
  have hstore := store_published k now slug w
  have hr := reply_of_published hfound
  rw [← hstore] at h hr ⊢
  rw [submit_map, World.run_bind_ok (Prod.ext hfound rfl)]
  exact run_deliver h hr _ _ rfl

section

variable {answers metadata : Value}

theorem validate?_eq_none (hanswers : ∀ entries, answers ≠ .map entries) (sections : List Section)
    (visited : Option (List String)) : Submission.validate? sections visited answers = none := by
  cases answers with
  | map entries => exact absurd rfl (hanswers entries)
  | _ => rfl

theorem quiet_submit (hanswers : ∀ entries, answers ≠ .map entries) (slug : String)
    (metadata : Value) : Quiet (submit slug answers metadata) := by
  refine (obeys_published not_false).bind_of fun found _ => ?_
  refine (obeys_trailOf bringsNone found.2 answers metadata).bind_of fun trail _ => ?_
  simp only [judge, validate?_eq_none hanswers]
  trivial

theorem refused_bind {σ : Type} {b : Backend σ} {f : α → Action β}
    (hf : ∀ x w, ∃ e, (World.run b now (f x) w).1 = .error e) (a : Action α) (w : World σ) :
    ∃ e, (World.run b now (a >>= f) w).1 = .error e := by
  change ∃ e, (World.run b now (a.bind f) w).1 = .error e
  rw [World.run_bind]
  rcases World.run b now a w with ⟨x | x, next⟩
  · exact ⟨x, rfl⟩
  · exact hf x next

theorem refused_submit (hanswers : ∀ entries, answers ≠ .map entries) (now : Timestamp)
    (slug : String) (metadata : Value) (w : World k.State) :
    ∃ e, (World.run k.backend now (submit slug answers metadata) w).1 = .error e := by
  refine refused_bind (fun found w => ?_) (published slug) w
  refine refused_bind (fun trail w => ?_) (trailOf found.2 answers metadata) w
  simp only [judge, validate?_eq_none hanswers]
  exact ⟨_, rfl⟩

theorem run_submit_error {e : Refusal}
    (hfound : (World.run k.backend now (published slug) w).1 = .error e)
    (entries : List (Key × Value)) (metadata : Value) :
    World.run k.backend now (submit slug (.map entries) metadata) w =
      (.error e, (World.run k.backend now (published slug) w).2) := by
  rw [submit_map, World.run_bind_error (Prod.ext hfound rfl)]

theorem submit_eq_ok (h : k.Files P w.store) {s : Submission}
    (hs : (World.run k.backend now (submit slug answers metadata) w).1 = .ok s) :
    ∃ entries r snapshot, answers = .map entries ∧
      (World.run k.backend now (published slug) w).1 = .ok (r, snapshot) ∧
      s = receipt (k.ids w.store) now r snapshot entries metadata := by
  by_cases hanswers : ∀ entries, answers ≠ .map entries
  · obtain ⟨e, he⟩ := refused_submit hanswers now slug metadata w
    rw [he] at hs
    cases hs
  · obtain ⟨entries, rfl⟩ := not_forall_not.1 hanswers
    cases hfound : (World.run k.backend now (published slug) w).1 with
    | error e =>
      rw [run_submit_error hfound] at hs
      cases hs
    | ok found =>
      obtain ⟨r, snapshot⟩ := found
      refine ⟨entries, r, snapshot, rfl, rfl, ?_⟩
      rw [(run_submit_map h hfound entries metadata).1] at hs
      split at hs
      · exact (Except.ok.inj hs).symm
      · cases hs

theorem files_submit (h : k.Files P w.store) (slug : String) (answers metadata : Value) :
    k.Files (fun s => P s ∨ (World.run k.backend now (submit slug answers metadata) w).1 = .ok s)
      (World.run k.backend now (submit slug answers metadata) w).2.store := by
  have hearlier := h.mono (Q := fun s => P s ∨
    (World.run k.backend now (submit slug answers metadata) w).1 = .ok s) fun s hs => .inl hs
  by_cases hanswers : ∀ entries, answers ≠ .map entries
  · exact (quiet_submit hanswers slug metadata).run hearlier
  · obtain ⟨entries, rfl⟩ := not_forall_not.1 hanswers
    cases hfound : (World.run k.backend now (published slug) w).1 with
    | error e =>
      have hstore := store_published k now slug w
      rw [run_submit_error hfound] at hearlier ⊢
      rwa [← hstore] at hearlier
    | ok found =>
      obtain ⟨r, snapshot⟩ := found
      refine (run_submit_map hearlier hfound entries metadata).2 fun hvalid => .inr ?_
      rw [(run_submit_map h hfound entries metadata).1, if_pos hvalid]

end

theorem files_operation (settings : Settings) (h : k.Files P w.store) (now : Timestamp)
    (o : Operation) :
    k.Files (fun s => P s ∨ ∃ slug answers metadata, o = .submit slug answers metadata ∧
        ((Operation.submit slug answers metadata).run settings k now w).1 = .ok s)
      (o.run settings k now w).2.store := by
  by_cases ho : ∃ slug answers metadata, o = .submit slug answers metadata
  · obtain ⟨slug, answers, metadata, rfl⟩ := ho
    exact (files_submit h slug answers metadata).mono fun s hs =>
      hs.imp_right fun hs => ⟨slug, answers, metadata, rfl, hs⟩
  · refine (quiet_operation settings fun slug answers metadata heq => ?_).run
      (h.mono fun s hs => .inl hs)
    exact ho ⟨slug, answers, metadata, heq⟩

/-- What is asked of the service, and when. -/
abbrev History := List (Timestamp × Operation)

/-- A service that has been asked for nothing yet. -/
def vacant (k : Kind) (ids : Ids) (w : World k.State) : World k.State :=
  { w with store := k.empty ids }

/-- What a history makes of a store. -/
def after (settings : Settings) (k : Kind) (start : World k.State) (history : History) :
    World k.State :=
  history.foldl (fun w asked => (asked.2.run settings k asked.1 w).2) start

def Acknowledged (settings : Settings) (k : Kind) (start : World k.State) (history : History)
    (s : Submission) : Prop :=
  ∃ earlier now slug answers metadata later,
    history = earlier ++ (now, .submit slug answers metadata) :: later ∧
      ((Operation.submit slug answers metadata).run settings k now
        (after settings k start earlier)).1 = .ok s

variable {settings : Settings} {start : World k.State}

theorem after_append (earlier later : History) :
    after settings k start (earlier ++ later) =
      after settings k (after settings k start earlier) later :=
  List.foldl_append

theorem after_concat (history : History) (asked : Timestamp × Operation) :
    after settings k start (history ++ [asked]) =
      (asked.2.run settings k asked.1 (after settings k start history)).2 :=
  after_append history [asked]

theorem Acknowledged.append {history : History} {s : Submission}
    (h : Acknowledged settings k start history s) (asked : Timestamp × Operation) :
    Acknowledged settings k start (history ++ [asked]) s := by
  obtain ⟨earlier, now, slug, answers, metadata, later, rfl, hs⟩ := h
  exact ⟨earlier, now, slug, answers, metadata, later ++ [asked], by simp, hs⟩

theorem files_after (settings : Settings) (k : Kind) (ids : Ids) (w : World k.State)
    (history : History) :
    k.Files (Acknowledged settings k (vacant k ids w) history)
      (after settings k (vacant k ids w) history).store := by
  induction history using List.reverseRecOn with
  | nil => exact Kind.files_empty _ k ids
  | append_singleton history asked ih =>
    obtain ⟨now, o⟩ := asked
    rw [after_concat]
    refine (files_operation settings ih now o).mono ?_
    rintro s (hs | ⟨slug, answers, metadata, rfl, hs⟩)
    · exact hs.append (now, o)
    · exact ⟨history, now, slug, answers, metadata, [], rfl, hs⟩

end IntakeForms.Service
