import IntakeForms.Proofs.Flow.WayOut
import IntakeForms.Proofs.Service.Clients
import IntakeForms.Proofs.Service.Respondents

/-! What is published while many clients are at work.  A request to publish carries
away the record it has read; whatever happens to the draft meanwhile, what it hands in
is the draft of that moment, checked, under a slug that the record still has. -/

namespace IntakeForms.Service

open IntakeForms.Action

abbrev Known := String → Record → Prop

def Warranted (policy : Flow.Policy) (known : Known) (id : String) (snapshot : Snapshot) : Prop :=
  ∃ r, known id r ∧ snapshot.slug = r.slug ∧ snapshot.metadata = r.draft.metadata ∧
    snapshot.sections = r.draft.sections ∧ (Flow.check policy snapshot.sections).isValid = true

def Learned (later : Known) : (c : Call) → c.Reply → Prop
  | .get id, reply => ∀ r, reply = some r → later id r
  | _, _ => True

/-- The action publishes nothing but warranted snapshots, whatever it learns on its way and
whatever else comes to be known, and ends with a result that `post` holds of. -/
def Cautious {α : Type} (policy : Flow.Policy) (post : Known → α → Prop) : Known → Action α → Prop
  | known, .done (.ok a) => post known a
  | _, .done (.error _) => True
  | known, .call c next =>
    (∀ id snapshot, c = .publish id snapshot → Warranted policy known id snapshot) ∧
      ∀ later reply, (∀ id r, known id r → later id r) → Learned later c reply →
        Cautious policy post later (next reply)
  | known, .note _ next => Cautious policy post known next
  | known, .announce _ next => Cautious policy post known next
  | known, .clock next => ∀ t, Cautious policy post known (next t)
  | known, .generate _ next => ∀ text, Cautious policy post known (next text)

theorem Warranted.mono {policy : Flow.Policy} {known later : Known} {id : String}
    {snapshot : Snapshot} (grows : ∀ id r, known id r → later id r)
    (h : Warranted policy known id snapshot) : Warranted policy later id snapshot := by
  obtain ⟨r, hr, rest⟩ := h
  exact ⟨r, grows id r hr, rest⟩

namespace Cautious

variable {α β : Type} {policy : Flow.Policy} {known : Known} {post : Known → β → Prop}

theorem bind {a : Action α} {f : α → Action β}
    (h : Cautious policy (fun known x => Cautious policy post known (f x)) known a) :
    Cautious policy post known (a >>= f) := by
  change Cautious policy post known (a.bind f)
  induction a generalizing known with
  | done result =>
    cases result with
    | ok x => exact h
    | error r => exact trivial
  | call c next ih =>
    exact ⟨h.1, fun later reply grows learned => ih reply (h.2 later reply grows learned)⟩
  | note e next ih => exact ih h
  | announce e next ih => exact ih h
  | clock next ih => exact fun t => ih t (h t)
  | generate prompt next ih => exact fun text => ih text (h text)

theorem mono {a : Action β} {later : Known} {post' : Known → β → Prop}
    (grows : ∀ id r, known id r → later id r)
    (himp : ∀ {k l : Known} {x : β}, (∀ id r, k id r → l id r) → post k x → post' l x)
    (h : Cautious policy post known a) : Cautious policy post' later a := by
  induction a generalizing known later with
  | done result =>
    cases result with
    | ok x => exact himp grows h
    | error r => exact trivial
  | call c next ih =>
    refine ⟨fun id snapshot hc => (h.1 id snapshot hc).mono grows, ?_⟩
    intro later' reply grows' learned
    have hnext := h.2 later' reply (fun id r hr => grows' id r (grows id r hr)) learned
    exact ih reply (fun _ _ hr => hr) hnext
  | note e next ih => exact ih grows h
  | announce e next ih => exact ih grows h
  | clock next ih => exact fun t => ih t grows (h t)
  | generate prompt next ih => exact fun text => ih text grows (h text)

theorem bind_of {a : Action α} {f : α → Action β} {pre : Known → α → Prop}
    (h : Cautious policy pre known a)
    (hf : ∀ {k l : Known} {x : α}, (∀ id r, k id r → l id r) → pre k x →
      Cautious policy post l (f x)) : Cautious policy post known (a >>= f) :=
  .bind (h.mono (fun _ _ hr => hr) hf)

theorem perform_bind {c : Call} {f : c.Reply → Action β}
    (quiet : ∀ id snapshot, c ≠ .publish id snapshot)
    (h : ∀ later reply, Cautious policy post later (f reply)) :
    Cautious policy post known (Action.perform c >>= f) :=
  ⟨fun id snapshot hc => absurd hc (quiet id snapshot), fun later reply _ _ => h later reply⟩

theorem get (id : String) : Cautious policy (fun known r => known id r) known (Service.get id) := by
  constructor
  · intro id snapshot hc
    cases hc
  · intro later reply _ learned
    cases reply with
    | none => exact trivial
    | some r => exact learned r rfl

theorem check_bind {sections : List Section} {f : Flow.Report → Action β}
    (h : Cautious policy post known (f (Flow.check policy sections))) :
    Cautious policy post known (Service.check policy sections >>= f) := by
  unfold Service.check
  cases sections with
  | nil => exact h
  | cons s rest => exact h

theorem draftOf_bind {settings : Settings} {r : Record} {f : Draft → Action β}
    (h : Cautious policy post known (f r.draft)) :
    Cautious policy post known (Service.draftOf settings r >>= f) := by
  unfold Service.draftOf
  split
  · exact trivial
  · split
    · exact h
    · exact trivial

theorem requireSound_bind {issues : List Flow.Issue} {f : Unit → Action β}
    (h : Cautious policy post known (f ())) :
    Cautious policy post known (Service.requireSound issues (return ()) >>= f) := by
  cases issues with
  | nil => exact h
  | cons first rest => exact trivial

end Cautious

variable {settings : Settings}

theorem cautious_publish (known : Known) (id : String) :
    Cautious settings.policy (fun _ _ => True) known (Service.publish settings id) := by
  refine .bind_of (.get id) fun {_ _ record} grows hknown => ?_
  refine .draftOf_bind (.check_bind ?_)
  split
  · next hvalid =>
    refine .bind fun now => .bind ⟨fun id' snapshot hc => ?_, fun _ _ _ _ => trivial⟩
    cases hc
    exact ⟨record, grows id record hknown, rfl, rfl, rfl, hvalid⟩
  · exact trivial

theorem cautious_apply (known : Known) (id : String) (proposal : Proposal) :
    Cautious settings.policy (fun _ _ => True) known (Service.apply settings id proposal) := by
  refine .bind_of (.get id) fun _ _ => ?_
  refine .draftOf_bind (.requireSound_bind (.perform_bind ?_ fun _ _ => .check_bind trivial))
  intro id snapshot hc
  cases hc

theorem cautious_request (known : Known) (r : Request) :
    Cautious settings.policy (fun _ _ => True) known (r.action settings) := by
  cases r with
  | create title workspace =>
    refine .perform_bind (fun id snapshot hc => ?_) fun _ _ => trivial
    cases hc
  | saveDraft id draft =>
    refine .perform_bind (fun id snapshot hc => ?_) fun _ _ => trivial
    cases hc
  | apply id proposal => exact .bind_of (cautious_apply known id proposal) fun _ _ => trivial
  | publish id => exact .bind_of (cautious_publish known id) fun _ _ => trivial

/-- What holds of the records when the records in `known` have been there. -/
structure Faithful (policy : Flow.Policy) (known : Known) (m : Memory) : Prop where
  sound : m.Sound
  lasting : ∀ {id r}, known id r → ∃ q, m.record? id = some q ∧ q.slug = r.slug
  published : ∀ {id r snapshot}, m.record? id = some r → r.published = some snapshot →
    Warranted policy known id snapshot

namespace Faithful

variable {policy : Flow.Policy} {known later : Known} {m n : Memory}

theorem slug_eq (h : Faithful policy known m) {id : String} {r : Record} {snapshot : Snapshot}
    (hr : m.record? id = some r) (hs : r.published = some snapshot) : snapshot.slug = r.slug := by
  obtain ⟨r₀, hknown, hslug, -⟩ := h.published hr hs
  obtain ⟨q, hq, hlasting⟩ := h.lasting hknown
  rw [hr] at hq
  obtain rfl := Option.some.inj hq
  rw [hslug, hlasting]

theorem learn (h : Faithful policy known m) (grows : ∀ id r, known id r → later id r)
    (learned : ∀ id r, later id r → known id r ∨ m.record? id = some r) :
    Faithful policy later m where
  sound := h.sound
  lasting := by
    intro id r hr
    rcases learned id r hr with hr | hr
    · exact h.lasting hr
    · exact ⟨r, hr, rfl⟩
  published hr hs := (h.published hr hs).mono grows

theorem put (h : Faithful policy known m) {r : Record} (hsound : n.Sound)
    (hn : n.records = Entries.put r.id r m.records)
    (hslug : ∀ {q}, m.record? r.id = some q → q.slug = r.slug)
    (hpublished : ∀ {snapshot}, r.published = some snapshot →
      Warranted policy known r.id snapshot) :
    Faithful policy known n where
  sound := hsound
  lasting := by
    intro id r₀ hknown
    obtain ⟨q, hq, heq⟩ := h.lasting hknown
    rw [Memory.record?_put hn]
    split_ifs with hid
    · subst hid
      exact ⟨r, rfl, (hslug hq).symm.trans heq⟩
    · exact ⟨q, hq, heq⟩
  published := by
    intro id q snapshot hq hs
    rw [Memory.record?_put hn] at hq
    split_ifs at hq with hid
    · subst hid
      obtain rfl := Option.some.inj hq
      exact hpublished hs
    · exact h.published hq hs

theorem run (h : Faithful policy known m) (now : Timestamp) (c : Call)
    (fresh : ∀ title workspace draft, c = .create title workspace draft → m.Fresh title)
    (warranted : ∀ id snapshot, c = .publish id snapshot → Warranted policy known id snapshot) :
    Faithful policy known (m.run now c).2 := by
  have hsound := h.sound.run now c fresh
  cases Memory.rewrite_run now c m with
  | kept _ hn =>
    refine ⟨hsound, fun hknown => ?_, fun hr hs => ?_⟩
    · rw [Memory.record?, hn]
      exact h.lasting hknown
    · rw [Memory.record?, hn] at hr
      exact h.published hr hs
  | created hid _ hnone hn =>
    refine h.put hsound hn (fun hq => ?_) fun hs => ?_
    · have hne := (fresh _ _ _ rfl _ (Memory.mem_all_of_record? hq)).1
      exact absurd ((h.sound.keyed hq).trans hid) hne
    · rw [hnone] at hs
      cases hs
  | @drafted id draft r hr hn =>
    have hid := h.sound.keyed hr
    refine h.put (r := { r with draft := draft, updatedAt := now }) hsound hn (fun hq => ?_)
      fun hs => ?_
    · rw [hid, hr] at hq
      rw [Option.some.inj hq]
    · rw [hid]
      exact h.published hr hs
  | @published id snapshot r hr hn =>
    have hid := h.sound.keyed hr
    refine h.put (r := { r with published := some snapshot, updatedAt := now }) hsound hn
      (fun hq => ?_) fun hs => ?_
    · rw [hid, hr] at hq
      rw [Option.some.inj hq]
    · rw [hid, ← Option.some.inj hs]
      exact warranted id snapshot rfl

theorem step {α : Type} {post : Known → α → Prop} {a : Action α} {w : World Memory}
    (h : Faithful policy known w.store) (ha : Cautious policy post known a) (now : Timestamp)
    (fresh : ∀ title ∈ a.creates?, w.store.Fresh title) :
    Faithful policy known (World.step Memory.backend now a w).2.store := by
  cases a with
  | call c next =>
    have hrun := h.run now c (fun title workspace draft hc => ?_) ha.1
    · simp only [World.step, Memory.backend]
      cases (w.store.run now c).1 <;> exact hrun
    · subst hc
      exact fresh title rfl
  | _ => exact h

end Faithful

theorem learned_run {known : Known} {m : Memory} (now : Timestamp) (c : Call) {reply : c.Reply}
    (hknown : ∀ id r, m.record? id = some r → known id r)
    (hreply : (m.run now c).1 = .ok reply) : Learned known c reply := by
  cases c with
  | get id =>
    intro r hr
    exact hknown id r ((Except.ok.inj hreply).trans hr)
  | _ => exact trivial

theorem Cautious.step {α : Type} {policy : Flow.Policy} {known : Known} {post : Known → α → Prop}
    {a : Action α} {w : World Memory} (h : Cautious policy post known a) (now : Timestamp)
    (hknown : ∀ id r, w.store.record? id = some r → known id r) :
    Cautious policy post known (World.step Memory.backend now a w).1 := by
  cases a with
  | call c next =>
    simp only [World.step, Memory.backend]
    cases hreply : (w.store.run now c).1 with
    | ok reply => exact h.2 known reply (fun _ _ hr => hr) (learned_run now c hknown hreply)
    | error f => exact trivial
  | clock next => exact h now
  | generate prompt next => exact h _
  | _ => exact h

def Seen (past : List System) : Known := fun id r => ∃ m ∈ past, r ∈ m.store.all ∧ r.id = id

/-- The records are faithful to the past, and nothing that is pending is incautious. -/
structure Guarded (policy : Flow.Policy) (past : List System) (s : System) : Prop where
  records : Faithful policy (Seen past) s.store
  pending : ∀ a ∈ s.pending, Cautious policy (fun _ _ => True) (Seen past) a

variable {start s t : System} {past : List System}

theorem seen_append_iff (h : s.store.Sound) {id : String} {r : Record} :
    Seen (past ++ [s]) id r ↔ Seen past id r ∨ s.store.record? id = some r := by
  simp only [Seen, List.mem_append, List.mem_singleton, or_and_right, exists_or, exists_eq_left,
    h.record?_eq_some_iff]

theorem Guarded.empty (h : start.Empty) (policy : Flow.Policy) : Guarded policy [] start where
  records :=
    { sound := .empty h.records
      lasting := fun ⟨_, hm, _⟩ => by cases hm
      published := fun hr => by simp [Memory.record?_empty h.records] at hr }
  pending := by simp [h.pending]

theorem Guarded.step (h : Guarded settings.policy past s) (hstep : Step settings s t) :
    Guarded settings.policy (past ++ [s]) t := by
  have hsound := h.records.sound
  have grows : ∀ id r, Seen past id r → Seen (past ++ [s]) id r :=
    fun id r hr => (seen_append_iff hsound).2 (.inl hr)
  have hrecords := h.records.learn grows fun id r => (seen_append_iff hsound).1
  have hpending : ∀ a ∈ s.pending,
      Cautious settings.policy (fun _ _ => True) (Seen (past ++ [s])) a :=
    fun a ha => (h.pending a ha).mono grows fun _ _ => trivial
  cases hstep with
  | request r =>
    refine ⟨hrecords, fun a ha => ?_⟩
    rcases List.mem_append.1 ha with ha | ha
    · exact hpending a ha
    · rw [List.mem_singleton.1 ha]
      exact cautious_request _ r
  | advance now i fresh =>
    unfold System.advance
    cases hi : s.pending[i]? with
    | none => exact ⟨hrecords, hpending⟩
    | some a =>
      have ha := hpending a (List.mem_of_getElem? hi)
      constructor
      · refine hrecords.step ha now fun title htitle => fresh title ?_
        rw [hi]
        exact htitle
      · intro b hb
        rcases List.mem_or_eq_of_mem_set hb with hb | rfl
        · exact hpending b hb
        · exact ha.step now fun id r hr => (seen_append_iff hsound).2 (.inr hr)

theorem Run.guarded (h : start.Empty) (run : Run settings start past s) :
    Guarded settings.policy past s := by
  induction run with
  | start => exact .empty h settings.policy
  | step _ hstep ih => exact ih.step hstep

theorem Run.publishable (h : start.Empty) (run : Run settings start past s) {r : Record}
    (hr : r ∈ s.store.all) {snapshot : Snapshot} (hs : r.published = some snapshot) :
    Flow.Publishable settings.policy snapshot.sections := by
  have records := (run.guarded h).records
  obtain ⟨-, -, -, -, -, valid⟩ := records.published (records.sound.mem_all_iff.1 hr) hs
  exact Flow.publishable_of_isValid valid

theorem exists_run_next {policy : Flow.Policy} {w : World Memory} {r : Record} {snapshot : Snapshot}
    (h : w.store.Sound) (hr : r ∈ w.store.all) (hs : r.published = some snapshot)
    (valid : (Flow.check policy snapshot.sections).isValid = true) (now : Timestamp)
    {sec : Section} (hsec : sec ∈ snapshot.sections) (answers : Answer.Answers) :
    ∃ reply, (World.run Memory.backend now (Service.next r.slug sec.id answers) w).1 = .ok reply ∧
      ∀ id, reply = some id → ∃ target ∈ snapshot.sections, target.id = id := by
  have hp := Flow.publishable_of_isValid valid
  have hfind := (Flow.find?_id_eq_some_iff hp.sectionIds).2 ⟨hsec, rfl⟩
  refine ⟨Flow.resolveNext sec answers, ?_, fun id hid => hp.target_of_resolveNext hsec hid⟩
  rw [run_next h hr hs, hfind]

/-- Whatever is published, at any moment of any run, is the frozen draft of an earlier moment,
under the slug of its record; it passes the check, and respondents are led from each of its
sections to another or to the end. -/
theorem published_is_frozen_draft (hstart : start.Empty) (run : Run settings start past s)
    {r : Record} (hr : r ∈ s.store.all) {snapshot : Snapshot} (hs : r.published = some snapshot) :
    snapshot.slug = r.slug ∧ (Flow.check settings.policy snapshot.sections).isValid = true ∧
      (∃ m ∈ past, ∃ q ∈ m.store.all, q.id = r.id ∧ snapshot.metadata = q.draft.metadata ∧
        snapshot.sections = q.draft.sections) ∧
      ∀ now, ∀ sec ∈ snapshot.sections, ∀ answers, ∃ reply,
        (World.run Memory.backend now (Service.next r.slug sec.id answers) s.world).1 = .ok reply ∧
          ∀ id, reply = some id → ∃ target ∈ snapshot.sections, target.id = id := by
  have guarded := run.guarded hstart
  have hsound := guarded.records.sound
  have hid := hsound.mem_all_iff.1 hr
  obtain ⟨q, ⟨m, hm, hq, heq⟩, -, hmetadata, hsections, valid⟩ := guarded.records.published hid hs
  exact ⟨guarded.records.slug_eq hid hs, valid, ⟨m, hm, q, hq, heq, hmetadata, hsections⟩,
    fun now sec hsec answers => exists_run_next hsound hr hs valid now hsec answers⟩

def opening : System where
  world := { store := { ids := ⟨toString, 0⟩ }, publisher := ⟨"", .absent, []⟩
             model := ⟨"", [], 0⟩ }
  pending := []

def moment : Timestamp := ⟨2024, 5, 1, 9, 0, 0, 0, none⟩

def plans : Draft where
  sections :=
    [{ id := "start", title := "", description := none
       blocks := [.question ⟨"plan", "", none, false⟩ .select (some ["Basic", "Pro "])]
       rules :=
         [⟨"pro", .equals, some "plan", some "Pro ", "pro"⟩,
          ⟨"otherwise", .any, none, none, "done"⟩] },
     { id := "pro", title := "", description := none, blocks := [], rules := [] },
     { id := "done", title := "", description := none, blocks := [], rules := [] }]

def publication : System :=
  let s := (opening.request ⟨{}, false, .usual⟩ (.create "" "")).advance moment 0
  let s := (s.request ⟨{}, false, .usual⟩ (.saveDraft "intake_1" plans)).advance moment 1
  let s := s.request ⟨{}, false, .usual⟩ (.publish "intake_1")
  (((s.advance moment 2).advance moment 2).advance moment 2).advance moment 2

theorem run_publication : ∃ past, Run ⟨{}, false, .usual⟩ opening past publication := by
  have run : Run ⟨{}, false, .usual⟩ opening [] opening := .start
  have run := (run.request (.create "" "")).advance moment 0 (by decide +kernel)
  have run := (run.request (.saveDraft "intake_1" plans)).advance moment 1 (by decide +kernel)
  have run := (run.request (.publish "intake_1")).advance moment 2 (by decide +kernel)
  have run := run.advance moment 2 (by decide +kernel)
  -- what comes next depends on the check
  have run := run.advance moment 2 (of_decide_eq_true (by cbv))
  have run := run.advance moment 2 (of_decide_eq_true (by cbv))
  exact ⟨_, run⟩

def plansRecord : Record :=
  ⟨"intake_1", "", "", "intake-2", plans, some (plans.freeze "intake-2" moment), moment, moment⟩

theorem publication_records : publication.store.records = [("intake_1", plansRecord)] := by
  cbv

theorem mem_publication : plansRecord ∈ publication.store.all := by
  simp [Memory.all, publication_records]

theorem published_is_frozen_draft_publication :
    ∃ past r snapshot, Run ⟨{}, false, .usual⟩ opening past publication ∧ r ∈ publication.store.all ∧
      r.published = some snapshot ∧ snapshot.slug = r.slug ∧
        (Flow.check {} snapshot.sections).isValid = true := by
  obtain ⟨past, run⟩ := run_publication
  have h := published_is_frozen_draft ⟨rfl, rfl⟩ run mem_publication rfl
  exact ⟨past, plansRecord, _, run, mem_publication, rfl, h.1, h.2.1⟩

end IntakeForms.Service
