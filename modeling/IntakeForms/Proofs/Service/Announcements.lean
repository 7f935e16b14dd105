import IntakeForms.Proofs.Service.TrailBounds

/-! What a history tells others.  No reply and nothing that is stored depends on whether anybody
listens; and whoever listens is told of every publication and every submission that succeeded,
once and in order, by the names and the moment that are then in the store. -/

namespace IntakeForms.Service

open Store

variable {k : Kind} {now : Timestamp} {st : k.State}

def Operation.announces : Operation → Bool
  | .publish _ | .submit .. => true
  | _ => false

/-- The messages that a request calls for by its reply, with what is then held: one on the topic of
publications for a publication, one on the topic of submissions for a submission, and none for
anything else. -/
inductive Announces (project : String) (held : Holdings) :
    (o : Operation) → Except Refusal o.Reply → List Message → Prop
  | refused (o : Operation) (e : Refusal) : Announces project held o (.error e) []
  | silent {o : Operation} (h : o.announces = false) (x : o.Reply) :
      Announces project held o (.ok x) []
  | published {id : String} {r : Record} {s : Snapshot} (report : Flow.Report)
      (record : held.record? id = .ok (some r)) (id_eq : r.id = id)
      (snapshot : r.published = some s) :
      Announces project held (.publish id) (.ok (r, report))
        [{ topic := "projects/" ++ project ++ "/topics/intake-published"
           data := Json.text .line (.object [("intake_id", .text r.id), ("slug", .text r.slug),
             ("published_at", .text (s.publishedAt.isoPlain 'T'))])
           attributes := [("intake_id", r.id), ("event_type", "intake_published")] }]
  | received {slug : String} (answers metadata : Value) {r : Record} {s : Submission}
      {stored : List Submission} (record : held.record? s.intakeId = .ok (some r))
      (id_eq : r.id = s.intakeId) (slug_eq : r.slug = slug)
      (submissions : held.submissions s.intakeId = .ok stored) (mem : s ∈ stored) :
      Announces project held (.submit slug answers metadata) (.ok s)
        [{ topic := "projects/" ++ project ++ "/topics/submission-received"
           data := Json.text .line (.object [("intake_id", .text s.intakeId),
             ("submission_id", .text s.id)])
           attributes := [("intake_id", s.intakeId), ("event_type", "submission_received")] }]

theorem message_published (p : Publisher) (id slug : String) (moment : Timestamp) :
    p.message (.published id slug moment) =
      { topic := "projects/" ++ p.project ++ "/topics/intake-published"
        data := Json.text .line (.object [("intake_id", .text id), ("slug", .text slug),
          ("published_at", .text (moment.isoPlain 'T'))])
        attributes := [("intake_id", id), ("event_type", "intake_published")] } := by
  have htopic : p.topicPath "intake-published" =
      "projects/" ++ p.project ++ "/topics/intake-published" := String.append_assoc
  rw [← htopic]
  rfl

theorem message_received (p : Publisher) (id submission : String) :
    p.message (.received id submission) =
      { topic := "projects/" ++ p.project ++ "/topics/submission-received"
        data := Json.text .line (.object [("intake_id", .text id),
          ("submission_id", .text submission)])
        attributes := [("intake_id", id), ("event_type", "submission_received")] } := by
  have htopic : p.topicPath "submission-received" =
      "projects/" ++ p.project ++ "/topics/submission-received" := String.append_assoc
  rw [← htopic]
  rfl

def Mirrors (k : Kind) (now : Timestamp) (o : Operation) (c : Course k.State o.Reply) : Prop :=
  ∀ p : Publisher, Announces p.project (k.holdings now c.store) o c.result (c.events.map p.message)

variable {settings : Settings} {P : Submission → Prop}

theorem looking_get (k : Kind) (now : Timestamp) (st : k.State) (id : String) :
    (looking k.backend now st).calls (.get id) := by
  cases k <;> rfl

theorem mirrors_publish (h : k.Files P st) (hnow : now.Valid) (id : String) (model : Model) :
    Mirrors k now (.publish id)
      (World.course k.backend now (Service.publish settings id) st model) := by
  have hrefused (e : Refusal) (model : Model) :
      Mirrors k now (.publish id) ⟨.error e, st, model, []⟩ := fun _ => .refused _ e
  refine course_bind_of_looking (obeys_get (looking_get k now st id)) hrefused
    (fun r model hr => ?_) model
  refine course_bind_of_looking (obeys_draftOf _ _ r) hrefused (fun draft model _ => ?_) model
  refine course_bind_of_looking (obeys_check _ _ _) hrefused (fun report model _ => ?_) model
  split
  · simp only [Action.now, Action.perform, Action.tell, Action.publish, bind, pure, Action.bind,
      World.course]
    cases hreply : (k.backend.run now (.publish id (draft.freeze r.slug now)) st).reply with
    | error f => exact fun _ => .refused _ _
    | ok updated =>
      obtain ⟨hrecord, hid, hslug, s, hs, hat⟩ := h.publish hr hnow hreply
      have hevent : Event.published id (draft.freeze r.slug now).slug
          (draft.freeze r.slug now).publishedAt =
            .published updated.id updated.slug s.publishedAt := by
        rw [hid, hslug, hat]
        rfl
      intro p
      have hmessage := message_published p updated.id updated.slug s.publishedAt
      rw [← hevent] at hmessage
      have hannounced := @Announces.published p.project _ _ _ _ report hrecord hid hs
      rw [← hmessage] at hannounced
      exact hannounced
  · exact hrefused _ _

theorem mirrors_submit (h : k.Files P st) (slug : String) (answers metadata : Value)
    (model : Model) :
    Mirrors k now (.submit slug answers metadata)
      (World.course k.backend now (Service.submit slug answers metadata) st model) := by
  have hrefused (e : Refusal) (model : Model) :
      Mirrors k now (.submit slug answers metadata) ⟨.error e, st, model, []⟩ :=
    fun _ => .refused _ e
  refine course_bind_of_looking (obeys_published (k.state_bySlug now slug st)) hrefused
    (fun found model hr => ?_) model
  refine course_bind_of_looking (obeys_trailOf _ found.2 answers metadata) hrefused
    (fun trail model _ => ?_) model
  refine course_bind_of_looking (obeys_judge _ _ _ _) hrefused (fun verdict model _ => ?_) model
  split
  · simp only [Action.perform, Action.tell, Action.publish, bind, pure, Action.bind, World.course]
    cases hreply : (k.backend.run now (.addSubmission found.1.id verdict.sanitized trail.1)
      st).reply with
    | error f => exact fun _ => .refused _ _
    | ok s =>
      obtain ⟨hid, hslug, hrecord, stored, hstored, hmem⟩ := h.add hr hreply
      intro p
      have hannounced := @Announces.received p.project _ _ answers metadata _ _ _ hrecord hid
        hslug hstored hmem
      rw [← message_received] at hannounced
      exact hannounced
  · exact hrefused _ _

theorem mirrors_silent {o : Operation} (ho : o.announces = false) (model : Model) :
    Mirrors k now o (World.course k.backend now (o.action settings) st model) := by
  have hobeys : Obeys { calls := fun _ => True, events := fun _ => False } (fun _ => True)
      (o.action settings) := by
    refine obeys_operation (fun _ _ => trivial) settings ?_
    cases o with
    | publish id => cases ho
    | submit slug answers metadata => cases ho
    | apply id proposal => exact fun _ _ => trivial
    | _ => trivial
  obtain ⟨-, hevents, -⟩ := hobeys.course (b := k.backend) (P := fun _ => True) now trivial
    (fun _ _ _ _ => ⟨trivial, fun _ _ => trivial⟩) st trivial model
  have hsilent := List.eq_nil_iff_forall_not_mem.2 hevents
  intro p
  rw [hsilent]
  cases (World.course k.backend now (o.action settings) st model).result with
  | ok x => exact .silent ho x
  | error e => exact .refused o e

theorem mirrors_operation (settings : Settings) (h : k.Files P st) (hnow : now.Valid)
    (o : Operation) (model : Model) :
    Mirrors k now o (World.course k.backend now (o.action settings) st model) := by
  cases o with
  | publish id => exact mirrors_publish h hnow id model
  | submit slug answers metadata => exact mirrors_submit h slug answers metadata model
  | _ => exact mirrors_silent rfl model

/-- The replies to a history, in order. -/
def replies (settings : Settings) (k : Kind) :
    World k.State → History → List ((o : Operation) × Except Refusal o.Reply)
  | _, [] => []
  | w, (now, o) :: rest =>
    ⟨o, (o.run settings k now w).1⟩ :: replies settings k (o.run settings k now w).2 rest

/-- The messages of a history are those that its requests call for, one request after the other. -/
inductive Mirrored (settings : Settings) (k : Kind) (project : String) :
    World k.State → History → List Message → Prop
  | nil (w : World k.State) : Mirrored settings k project w [] []
  | cons {w : World k.State} {now : Timestamp} {o : Operation} {rest : History}
      {messages later : List Message}
      (request : Announces project (k.holdings now (o.run settings k now w).2.store) o
        (o.run settings k now w).1 messages)
      (history : Mirrored settings k project (o.run settings k now w).2 rest later) :
      Mirrored settings k project w ((now, o) :: rest) (messages ++ later)

variable {w : World k.State}

/-- Where two services have the same store and the same model they give the same replies and
have the same store afterwards. -/
theorem replies_congr {v : World k.State} (hstore : v.store = w.store) (hmodel : v.model = w.model)
    (history : History) :
    replies settings k v history = replies settings k w history ∧
      (after settings k v history).store = (after settings k w history).store := by
  induction history generalizing v w with
  | nil => exact ⟨rfl, hstore⟩
  | cons asked rest ih =>
    obtain ⟨now, o⟩ := asked
    obtain ⟨hv, hvstore, hvmodel, -⟩ := World.run_course k.backend now (o.action settings) v
    obtain ⟨hw, hwstore, hwmodel, -⟩ := World.run_course k.backend now (o.action settings) w
    rw [hstore, hmodel] at hv hvstore hvmodel
    obtain ⟨hreplies, hnext⟩ := @ih (o.run settings k now w).2 (o.run settings k now v).2
      (hvstore.trans hwstore.symm) (hvmodel.trans hwmodel.symm)
    refine ⟨?_, hnext⟩
    have hreply : (o.run settings k now v).1 = (o.run settings k now w).1 := hv.trans hw.symm
    rw [replies, replies, hreply, hreplies]

theorem mirrored_history (settings : Settings) (h : k.Files (fun _ => True) w.store)
    {history : History} (hvalid : ∀ asked ∈ history, asked.1.Valid) (p : Publisher) :
    ∃ events, Mirrored settings k p.project w history (events.map p.message) ∧
      (after settings k w history).publisher = w.publisher.hear events := by
  -- what is filed stays filed, so that every request finds what its messages tell of
  induction history generalizing w with
  | nil => exact ⟨[], .nil w, rfl⟩
  | cons asked rest ih =>
    obtain ⟨now, o⟩ := asked
    rw [List.forall_mem_cons] at hvalid
    obtain ⟨hresult, hstore, -, hpublisher⟩ :=
      World.run_course k.backend now (o.action settings) w
    have hrequest := mirrors_operation settings h hvalid.1 o w.model p
    rw [← hstore, ← hresult] at hrequest
    obtain ⟨later, hlater, hheard⟩ :=
      ih ((files_operation settings h now o).mono fun _ _ => trivial) hvalid.2
    have hmirrored := Mirrored.cons hrequest hlater
    rw [← List.map_append] at hmirrored
    refine ⟨_, hmirrored, ?_⟩
    rw [Publisher.hear_append, ← hpublisher]
    exact hheard

/-- Whoever listens, no reply and nothing that is stored is different; and a publisher that works
has a message for every publication and every submission that succeeded, once and in order, with
what was then in the store, and no others. -/
theorem events_mirror_successes (settings : Settings) (k : Kind) (ids : Ids) (w : World k.State)
    (history : History) :
    (∀ publisher : Publisher,
      replies settings k (vacant k ids { w with publisher := publisher }) history =
          replies settings k (vacant k ids w) history ∧
        (after settings k (vacant k ids { w with publisher := publisher }) history).store =
          (after settings k (vacant k ids w) history).store) ∧
      (w.publisher.delivery = .working → (∀ asked ∈ history, asked.1.Valid) →
        ∃ messages, Mirrored settings k w.publisher.project (vacant k ids w) history messages ∧
          (after settings k (vacant k ids w) history).publisher.sent =
            w.publisher.sent ++ messages) := by
  refine ⟨fun publisher => ?_, fun hworking hvalid => ?_⟩
  · exact replies_congr (v := vacant k ids { w with publisher := publisher })
      (w := vacant k ids w) rfl rfl history
  · obtain ⟨events, hevents, hpublisher⟩ :=
      mirrored_history settings (w := vacant k ids w)
        (Kind.files_empty (fun _ => True) k ids) hvalid w.publisher
    refine ⟨_, hevents, ?_⟩
    rw [hpublisher]
    exact Publisher.sent_hear (by simp [vacant, hworking]) events

def listening : World (Kind.State .memory) := { bare with publisher := ⟨"forms", .working, []⟩ }

def loneAnswered : History :=
  lonePublished "start" ++
    [(eight, .submit "intake-2" (.map [(.text "name", .text "Ada")]) .null),
      (eight, .publish "intake_2")]

def loneMessages : List Message :=
  [{ topic := "projects/forms/topics/intake-published"
     data := "\x7b\"intake_id\": \"intake_1\", \"slug\": \"intake-2\", \"published_at\": \"2024-05-01T08:00:00+00:00\"\x7d"
     attributes := [("intake_id", "intake_1"), ("event_type", "intake_published")] },
    { topic := "projects/forms/topics/submission-received"
      data := "\x7b\"intake_id\": \"intake_1\", \"submission_id\": \"sub_3\"\x7d"
      attributes := [("intake_id", "intake_1"), ("event_type", "submission_received")] }]

theorem sent_loneAnswered :
    (after ⟨{}, false, .usual⟩ .memory listening loneAnswered).publisher.sent = loneMessages := by
  cbv

theorem events_mirror_successes_loneAnswered :
    (∀ asked ∈ loneAnswered, asked.1.Valid) ∧
      Mirrored ⟨{}, false, .usual⟩ .memory "forms" listening loneAnswered loneMessages := by
  have hvalid : ∀ asked ∈ loneAnswered, asked.1.Valid := by
    have hmoments : ∀ asked ∈ loneAnswered, asked.1 = eight := by
      simp [loneAnswered, lonePublished, loneDrafted]
    intro asked hasked
    rw [hmoments asked hasked]
    exact onClock_eight.valid
  obtain ⟨messages, hmessages, hsent⟩ :=
    (events_mirror_successes ⟨{}, false, .usual⟩ .memory ⟨toString, 0⟩ listening loneAnswered).2
      rfl hvalid
  have hsame : messages = loneMessages := hsent.symm.trans sent_loneAnswered
  exact ⟨hvalid, hsame ▸ hmessages⟩

end IntakeForms.Service
