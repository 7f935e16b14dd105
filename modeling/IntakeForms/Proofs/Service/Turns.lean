import IntakeForms.Proofs.Service.Receipts

/-! What one operation makes of the records and submissions that a store shadows.  One theorem
says it for every operation and over either store: a refusal and a look leave them as they are,
and a success makes, changes or adds to the one record that it names, with exactly what was handed
in or read. -/

namespace IntakeForms.Service

open Store Answer

/-- What an operation replies, and what it makes of the records and submissions `m`. -/
inductive Turn (k : Kind) (now : Timestamp) (m : Memory) :
    (o : Operation) → Except Refusal o.Reply → Memory → Prop
  | kept {o : Operation} {reply : Except Refusal o.Reply} :
      (o.reads = true ∨ ∃ e, reply = .error e) → Turn k now m o reply m
  | created {title workspace : String} : m.Fresh title →
      Turn k now m (.create title workspace) (.ok (m.create title workspace none now).1)
        (m.create title workspace none now).2
  | saved {id : String} {draft : Draft} {q r : Record} : m.record? id = some q →
      Turn k now m (.saveDraft id draft) (.ok r)
        (m.store { q with draft := draft, updatedAt := now })
  | applied {id : String} {p : Proposal} {q : Record} {reply : Record × Flow.Report} :
      m.record? id = some q →
      Turn k now m (.apply id p) (.ok reply)
        (m.store { q with draft := mergedDraft k p q, updatedAt := now })
  | published {id : String} {q : Record} {reply : Record × Flow.Report} : m.record? id = some q →
      Turn k now m (.publish id) (.ok reply)
        (m.store { q with published := some (frozenDraft k now q), updatedAt := now })
  | received {q : Record} {answers metadata : Value} {kept : Answers} {trail : Trail} :
      m.record? q.id = some q →
      Turn k now m (.submit q.slug answers metadata) (.ok (m.addSubmission q.id kept trail now).1)
        (m.addSubmission q.id kept trail now).2

variable {settings : Settings} {k : Kind} {now : Timestamp} {m : Memory} {w : World k.State}
  {slug : String}

theorem reply_bySlug (h : k.Shadows w.store m) (now : Timestamp) (slug : String) :
    (k.backend.run now (.bySlug slug) w.store).reply =
      .ok ((m.all.find? (·.slug = slug)).map k.form) := by
  rw [h.reply_eq (c := .bySlug slug) now trivial trivial rfl rfl]
  exact congrArg Except.ok (written_bySlug k slug _)

theorem run_get (h : k.Shadows w.store m) (now : Timestamp) (id : String) :
    (World.run k.backend now (Service.get id) w).1 =
      match m.record? id with
      | some q => .ok (k.form q)
      | none => .error (.intakeNotFound id) := by
  have hreply : (k.backend.run now (.get id) w.store).reply = .ok ((m.record? id).map k.form) := by
    rw [h.reply_eq (c := .get id) now trivial trivial rfl rfl]
    exact congrArg Except.ok (written_get k id _)
  simp only [Service.get, Action.perform, bind, Action.bind, World.run, hreply]
  cases m.record? id <;> rfl

theorem run_published_form (h : k.Shadows w.store m) (now : Timestamp) (slug : String) :
    (World.run k.backend now (published slug) w).1 =
      match (m.all.find? (·.slug = slug)).map k.form with
      | some r => match r.published with
        | some s => .ok (r, s)
        | none => .error (.intakeNotFound slug)
      | none => .error (.intakeNotFound slug) := by
  simp only [published, Action.perform, bind, Action.bind, World.run, reply_bySlug h]
  cases (m.all.find? (·.slug = slug)).map k.form with
  | none => rfl
  | some r =>
    dsimp only
    cases r.published <;> rfl

theorem turn_create (settings : Settings) (h : k.Shadows w.store m) (hnow : OnClock now)
    {title : String} (hfresh : m.Fresh title) (workspace : String) :
    k.Shadows ((Operation.create title workspace).run settings k now w).2.store
        (m.create title workspace none now).2 ∧
      ((Operation.create title workspace).run settings k now w).1 =
        .ok (m.create title workspace none now).1 := by
  obtain ⟨hreply, hnext⟩ := h.run_ok (c := .create title workspace none) hnow.zoned
    (fun _ hdraft => by cases hdraft) hfresh rfl (fun _ _ _ heq => (Call.create.inj heq).2.2.symm)
    rfl (show (m.run now (.create title workspace none)).1 =
      .ok (m.create title workspace none now).1 from rfl)
  have hwritten : k.written (.create title workspace none) (m.create title workspace none now).1 =
      (m.create title workspace none now).1 := by
    cases k <;> rfl
  rw [hwritten] at hreply
  change k.Shadows (World.run k.backend now (Service.create title workspace) w).2.store _ ∧
    (World.run k.backend now (Service.create title workspace) w).1 = _
  simp only [Service.create, Action.perform, World.run, hreply]
  exact ⟨hnext, trivial⟩

theorem record_of_published (h : k.Shadows w.store m) {r : Record} {snapshot : Snapshot}
    (hfound : (World.run k.backend now (published slug) w).1 = .ok (r, snapshot)) :
    ∃ q, m.record? q.id = some q ∧ q.slug = slug ∧ r = k.form q := by
  have hreply := reply_of_published hfound
  rw [reply_bySlug h] at hreply
  obtain ⟨q, hq, rfl⟩ := Option.map_eq_some_iff.1 (Except.ok.inj hreply)
  exact ⟨q, h.orderly.sound.mem_all_iff.1 (List.mem_of_find?_eq_some hq),
    by simpa using List.find?_some hq, rfl⟩

theorem turn_deliver (h : k.Shadows w.store m) (hnow : OnClock now) {q : Record}
    (hq : m.record? q.id = some q) {verdict : Verdict} {trail : Trail}
    (hdraws : m.Draws (.addSubmission q.id verdict.sanitized trail)) {s : Submission}
    (hs : (World.run k.backend now (deliver (k.form q) verdict trail) w).1 = .ok s) :
    s = (m.addSubmission q.id verdict.sanitized trail now).1 ∧
      k.Shadows (World.run k.backend now (deliver (k.form q) verdict trail) w).2.store
        (m.addSubmission q.id verdict.sanitized trail now).2 := by
  have hrun : m.run now (.addSubmission q.id verdict.sanitized trail) =
      (.ok (m.addSubmission q.id verdict.sanitized trail now).1,
        (m.addSubmission q.id verdict.sanitized trail now).2) := by
    rw [Memory.run, hq]
  have hwritten (reply : Submission) :
      k.written (.addSubmission q.id verdict.sanitized trail) reply = reply := by
    cases k <;> rfl
  obtain ⟨hreply, hnext⟩ := h.run_ok (c := .addSubmission q.id verdict.sanitized trail)
    hnow.zoned trivial hdraws rfl (fun _ _ _ heq => by cases heq) rfl (congrArg Prod.fst hrun)
  rw [hwritten] at hreply
  rw [hrun] at hnext
  cases hvalid : verdict.valid with
  | false =>
    simp only [deliver, hvalid] at hs
    cases hs
  | true =>
    rw [← k.form_id q] at hreply
    obtain ⟨hok, hstore⟩ := run_deliver_valid hvalid hreply
    rw [hok] at hs
    rw [hstore, ← Except.ok.inj hs, k.form_id]
    exact ⟨rfl, hnext⟩

theorem turn_submit (settings : Settings) (h : k.Shadows w.store m) (hnow : OnClock now)
    {answers metadata : Value}
    (hdraws : (Operation.submit slug answers metadata).Draws (m.seen k.form) m.ids) {s : Submission}
    (hs : ((Operation.submit slug answers metadata).run settings k now w).1 = .ok s) :
    ∃ q kept trail, m.record? q.id = some q ∧ q.slug = slug ∧
      s = (m.addSubmission q.id kept trail now).1 ∧
      k.Shadows ((Operation.submit slug answers metadata).run settings k now w).2.store
        (m.addSubmission q.id kept trail now).2 := by
  change (World.run k.backend now (submit slug answers metadata) w).1 = _ at hs
  change ∃ q kept trail, _ ∧ _ ∧ _ ∧
    k.Shadows (World.run k.backend now (submit slug answers metadata) w).2.store _
  by_cases hanswers : ∀ entries, answers ≠ .map entries
  · obtain ⟨e, he⟩ := refused_submit hanswers now slug metadata w
    rw [he] at hs
    cases hs
  obtain ⟨entries, rfl⟩ := not_forall_not.1 hanswers
  cases hfound : (World.run k.backend now (published slug) w).1 with
  | error e =>
    rw [run_submit_error hfound] at hs
    cases hs
  | ok found =>
    obtain ⟨r, snapshot⟩ := found
    obtain ⟨q, hq, hslug, rfl⟩ := record_of_published h hfound
    rw [← store_published k now slug w] at h
    rw [submit_map, World.run_bind_ok (Prod.ext hfound rfl)] at hs ⊢
    obtain ⟨hsent, hnext⟩ := turn_deliver h hnow hq (hdraws q.id _ rfl) hs
    exact ⟨q, _, _, hq, hslug, hsent, hnext⟩

theorem turn_commits {o : Operation} (h : k.Shadows w.store m) (hnow : OnClock now)
    {writes : Call → Prop} (ha : Commits k now m writes (o.action settings))
    (hwrites : ∀ c, writes c → c.Genuine ∧ m.Draws c ∧
      ∀ title workspace draft, c = .create title workspace draft → draft = none)
    (hturn : ∀ c reply result, writes c → (m.run now c).1 = .ok reply →
      Turn k now m o (.ok result) (m.run now c).2) :
    ∃ n, k.Shadows (o.run settings k now w).2.store n ∧
      Turn k now m o (o.run settings k now w).1 n := by
  rcases run_commits h hnow.zoned hwrites ha with
    ⟨hkept, hrefused⟩ | ⟨c, reply, hc, hok, hnext, x, hx⟩
  · exact ⟨m, hkept, .kept (.inr hrefused)⟩
  · refine ⟨_, hnext, ?_⟩
    have hresult : (o.run settings k now w).1 = .ok x := hx
    rw [hresult]
    exact hturn c reply x hc hok

theorem turn_operation (settings : Settings) {o : Operation} (h : k.Shadows w.store m)
    (hnow : OnClock now) (hgenuine : o.Genuine) (hdraws : o.Draws (m.seen k.form) m.ids) :
    ∃ n, k.Shadows (o.run settings k now w).2.store n ∧
      Turn k now m o (o.run settings k now w).1 n := by
  have hsaved {id : String} {q : Record} (hq : m.record? id = some q) (draft : Draft) :
      (m.run now (.saveDraft id draft)).2 =
        m.store { q with draft := draft, updatedAt := now } := by
    rw [Memory.run, hq]
  cases hreads : o.reads with
  | true =>
    exact ⟨m, run_recalls h hnow.zoned (recalls_of_reads settings hreads), .kept (.inl hreads)⟩
  | false =>
    cases o with
    | create title workspace =>
      have hfresh := fresh_of_draws h.orderly.sound hdraws
      obtain ⟨hnext, hreply⟩ := turn_create settings h hnow hfresh workspace
      exact ⟨_, hnext, hreply ▸ .created hfresh⟩
    | saveDraft id draft =>
      refine turn_commits h hnow (commits_saveDraft k now m id draft) ?_ ?_
      · rintro _ rfl
        exact ⟨hgenuine, trivial, fun _ _ _ heq => by cases heq⟩
      · rintro _ reply r rfl hok
        cases hq : m.record? id with
        | none => simp [Memory.run, hq] at hok
        | some q => exact hsaved hq draft ▸ .saved hq
    | apply id p =>
      refine turn_commits h hnow (commits_apply k now h.genuine settings id p) ?_ ?_
      · rintro _ ⟨q, -, rfl, hdraft⟩
        exact ⟨hdraft, trivial, fun _ _ _ heq => by cases heq⟩
      · rintro _ reply result ⟨q, hq, rfl, -⟩ -
        exact hsaved hq _ ▸ .applied hq
    | publish id =>
      refine turn_commits h hnow (commits_publish k hnow.valid h.genuine settings id) ?_ ?_
      · rintro _ ⟨q, -, rfl, hsnapshot⟩
        exact ⟨hsnapshot, trivial, fun _ _ _ heq => by cases heq⟩
      · rintro _ reply result ⟨q, hq, rfl, -⟩ -
        have hpublished : (m.run now (.publish id (frozenDraft k now q))).2 =
            m.store { q with published := some (frozenDraft k now q), updatedAt := now } := by
          rw [Memory.run, hq]
        exact hpublished ▸ .published hq
    | submit slug answers metadata =>
      cases hresult : ((Operation.submit slug answers metadata).run settings k now w).1 with
      | error e =>
        cases effect_operation settings h hnow hgenuine hdraws with
        | kept hnext => exact ⟨m, hnext, .kept (.inr ⟨e, rfl⟩)⟩
        | changed n reply _ hok =>
          rw [hresult] at hok
          cases hok
      | ok s =>
        obtain ⟨q, kept, trail, hq, rfl, rfl, hnext⟩ := turn_submit settings h hnow hdraws hresult
        exact ⟨_, hnext, .received hq⟩
    | _ => cases hreads

end IntakeForms.Service
