import IntakeForms.Proofs.Service.Commits
import IntakeForms.Proofs.Service.Operations

/-! Operations are all or nothing.  Each of them only looks, or hands the store one change when
all that could be refused is behind it; so one that is refused leaves everything that can be read
as it was, and one that succeeds changes what it names, over either store. -/

namespace IntakeForms.Service

open Store

namespace Operation

/-- A draft that is handed in has been read from a document. -/
def Genuine : Operation → Prop
  | .saveDraft _ draft => draft.Genuine
  | _ => True

/-- What the operation draws from the source of identifiers is not in use. -/
def Draws (held : Holdings) (ids : Ids) : Operation → Prop
  | .create title _ => ∀ id r, held.record? id = .ok (some r) →
      r.id ≠ (Ids.newId "intake" ids).1 ∧ r.slug ≠ (Ids.slug title (Ids.newId "intake" ids).2).1
  | .submit .. => ∀ id stored, held.submissions id = .ok stored →
      ∀ s ∈ stored, s.id ≠ (Ids.newId "sub" ids).1
  | _ => True

/-- What a success of the operation changes: a record is made, the one that is named gets a draft
or a snapshot, or the one that has the slug gets a submission. -/
def Changes (before after : Holdings) : Operation → Prop
  | .create .. => before.Added after
  | .saveDraft id _ | .apply id _ => before.Redrafted id after
  | .publish id => before.Republished id after
  | .submit slug .. => before.Received slug after
  | _ => after = before

theorem changes_iff_of_reads {o : Operation} (h : o.reads = true) {before after : Holdings} :
    o.Changes before after ↔ after = before := by
  cases o <;> first | exact Iff.rfl | cases h

end Operation

section

variable {k : Kind} {now : Timestamp} {m : Memory}

theorem written_get (k : Kind) (id : String) (found : Option Record) :
    k.written (.get id) found = found.map k.form := by
  cases k with
  | memory => exact (congrFun Option.map_id found).symm
  | documents q => rfl

theorem written_bySlug (k : Kind) (slug : String) (found : Option Record) :
    k.written (.bySlug slug) found = found.map k.form := by
  cases k with
  | memory => exact (congrFun Option.map_id found).symm
  | documents q => rfl

theorem recalls_get (k : Kind) (now : Timestamp) (m : Memory) (id : String) :
    Obeys (recalls k now m) (fun r => ∃ q, m.record? id = some q ∧ r = k.form q)
      (Service.get id) := by
  refine (obeys_get trivial).mono ?_
  rintro r ⟨found, hfound, hshown⟩
  obtain rfl : m.record? id = found := Except.ok.inj hfound
  have hr := (hshown rfl).trans (written_get k id (m.record? id))
  obtain ⟨q, hq, hform⟩ := Option.map_eq_some_iff.1 hr.symm
  exact ⟨q, hq, hform.symm⟩

theorem recalls_published (k : Kind) (now : Timestamp) (m : Memory) (slug : String) :
    Obeys (recalls k now m) (fun found => ∃ q ∈ m.all, q.slug = slug ∧ found.1 = k.form q)
      (Service.published slug) := by
  refine (obeys_published trivial).mono ?_
  rintro found ⟨reply, hreply, hshown⟩
  obtain rfl : m.all.find? (·.slug = slug) = reply := Except.ok.inj hreply
  have hr := (hshown rfl).trans (written_bySlug k slug (m.all.find? (·.slug = slug)))
  obtain ⟨q, hq, hform⟩ := Option.map_eq_some_iff.1 hr.symm
  exact ⟨q, List.mem_of_find?_eq_some hq, by simpa using List.find?_some hq, hform.symm⟩

theorem recalls_of_reads (settings : Settings) {o : Operation} (ho : o.reads = true) :
    Obeys (recalls k now m) (fun _ => True) (o.action settings) := by
  refine obeys_operation (fun _ hc => hc) settings ?_
  cases o <;> trivial

theorem settles_check (policy : Flow.Policy) (sections : List Section) {α : Type}
    {f : Flow.Report → Action α} (h : ∀ report, Settles (f report)) :
    Settles (check policy sections >>= f) := by
  cases sections <;> exact h _

theorem genuine_form (k : Kind) {r : Record} (h : r.Genuine) : (k.form r).draft.Genuine := by
  cases k with
  | memory => exact h.draft
  | documents q => exact h.draft.plain

theorem genuine_apply {d : Draft} (h : d.Genuine) (p : Proposal) :
    Draft.Genuine { d with sections := p.apply d.sections } := by
  intro s hs
  obtain ⟨t, ht, rfl⟩ := List.mem_map.1 hs
  have hblocks : (p.applyTo t).blocks = t.blocks := by
    unfold Proposal.applyTo
    split <;> rfl
  intro b hb
  exact h t ht b (hblocks ▸ hb)

theorem commits_create (k : Kind) (now : Timestamp) (m : Memory) (title workspace : String) :
    Commits k now m (· = .create title workspace none) (Service.create title workspace) :=
  .inr ⟨rfl, fun _ => True.intro⟩

theorem commits_saveDraft (k : Kind) (now : Timestamp) (m : Memory) (id : String) (draft : Draft) :
    Commits k now m (· = .saveDraft id draft) (Service.saveDraft id draft) :=
  .inr ⟨rfl, fun _ => True.intro⟩

def mergedDraft (k : Kind) (p : Proposal) (r : Record) : Draft :=
  { (k.form r).draft with sections := p.apply (k.form r).draft.sections }

def frozenDraft (k : Kind) (now : Timestamp) (r : Record) : Snapshot :=
  (k.form r).draft.freeze (k.form r).slug now

theorem commits_apply (k : Kind) (now : Timestamp) {m : Memory} (h : ∀ r ∈ m.all, r.Genuine)
    (settings : Settings) (id : String) (p : Proposal) :
    Commits k now m (fun c => ∃ q, m.record? id = some q ∧
      c = .saveDraft id (mergedDraft k p q) ∧ (mergedDraft k p q).Genuine)
      (Service.apply settings id p) := by
  refine Obeys.commits ((recalls_get k now m id).mono ?_)
  rintro _ ⟨q, hq, rfl⟩
  refine Obeys.commits ((obeys_draftOf _ _ _).mono ?_)
  rintro _ rfl
  refine Obeys.commits ((obeys_requireSound _ ?_).mono fun _ _ => ?_)
  · exact True.intro
  · refine commits_perform ⟨q, hq, rfl, genuine_apply (genuine_form k (h q ?_)) p⟩ fun reply => ?_
    · exact Memory.mem_all_of_record? hq
    · exact settles_check _ _ fun _ => True.intro

theorem commits_publish (k : Kind) {now : Timestamp} (hnow : now.Valid) {m : Memory}
    (h : ∀ r ∈ m.all, r.Genuine) (settings : Settings) (id : String) :
    Commits k now m (fun c => ∃ q, m.record? id = some q ∧
      c = .publish id (frozenDraft k now q) ∧ (frozenDraft k now q).Genuine)
      (Service.publish settings id) := by
  refine Obeys.commits ((recalls_get k now m id).mono ?_)
  rintro _ ⟨q, hq, rfl⟩
  refine Obeys.commits ((obeys_draftOf _ _ _).mono ?_)
  rintro _ rfl
  refine Obeys.commits ((obeys_check _ _ _).mono fun report _ => ?_)
  split
  · refine Obeys.commits fun moment hmoment => ?_
    obtain rfl : moment = now := hmoment
    refine commits_perform ⟨q, hq, rfl, ⟨genuine_form k (h q ?_), hnow⟩⟩ fun reply => ?_
    · exact Memory.mem_all_of_record? hq
    · exact True.intro
  · exact True.intro

theorem commits_submit (k : Kind) (now : Timestamp) {m : Memory} (hm : m.Sound) (slug : String)
    (answers metadata : Value) :
    Commits k now m (fun c => ∃ r kept trail, c = .addSubmission r.id kept trail ∧
      m.record? r.id = some r ∧ r.slug = slug) (Service.submit slug answers metadata) := by
  refine Obeys.commits ((recalls_published k now m slug).mono ?_)
  rintro ⟨r, s⟩ ⟨q, hq, hslug, hr⟩
  refine Obeys.commits ((obeys_trailOf _ s answers metadata).mono ?_)
  rintro ⟨trail, visited⟩ -
  refine Obeys.commits ((obeys_judge _ _ visited answers).mono fun verdict _ => ?_)
  split
  · refine commits_perform ⟨q, verdict.sanitized, trail, ?_, hm.mem_all_iff.1 hq, hslug⟩
      fun reply => True.intro
    rw [show r = k.form q from hr, Kind.form_id]
  · exact True.intro

end

/-- A moment as the clock gives it. -/
structure OnClock (now : Timestamp) : Prop where
  valid : now.Valid
  zoned : now.offset.isSome = true

variable {settings : Settings} {k : Kind} {now : Timestamp} {o : Operation}

section

variable {m : Memory} {w : World k.State}

theorem fresh_of_draws {title workspace : String} (hm : m.Sound)
    (h : (Operation.create title workspace).Draws (m.seen k.form) m.ids) : m.Fresh title := by
  intro r hr
  have hfound : (m.seen k.form).record? r.id = .ok (some (k.form r)) :=
    congrArg (fun found => Except.ok (Option.map k.form found)) (hm.mem_all_iff.1 hr)
  have hnew := h r.id (k.form r) hfound
  rwa [Kind.form_id, Kind.form_slug] at hnew

/-- What an operation comes to, from a store that holds the records `m`. -/
inductive Effect (k : Kind) (m : Memory) (o : Operation)
    (result : Except Refusal o.Reply × World k.State) : Prop
  | kept : k.Shadows result.2.store m → (o.reads = true ∨ ∃ e, result.1 = .error e) →
      Effect k m o result
  | changed (n : Memory) (reply : o.Reply) : k.Shadows result.2.store n → result.1 = .ok reply →
      o.Changes (m.seen k.form) (n.seen k.form) → Effect k m o result

theorem effect_of_commits (h : k.Shadows w.store m) (hnow : now.offset.isSome = true)
    {writes : Call → Prop} (ha : Commits k now m writes (o.action settings))
    (hwrites : ∀ c, writes c → c.Genuine ∧ m.Draws c ∧
      ∀ title workspace draft, c = .create title workspace draft → draft = none)
    (hchanges : ∀ c reply, writes c → (m.run now c).1 = .ok reply →
      o.Changes (m.seen k.form) ((m.run now c).2.seen k.form)) :
    Effect k m o (o.run settings k now w) := by
  rcases run_commits h hnow hwrites ha with ⟨hkept, hrefused⟩ | ⟨c, reply, hc, hok, hnext, x, hx⟩
  · exact .kept hkept (.inr hrefused)
  · exact .changed _ x hnext hx (hchanges c reply hc hok)

theorem effect_create (settings : Settings) (h : k.Shadows w.store m) (hnow : OnClock now)
    {title workspace : String} (hfresh : m.Fresh title) :
    Effect k m (.create title workspace)
      ((Operation.create title workspace).run settings k now w) := by
  refine effect_of_commits h hnow.zoned
    (commits_create k now m title workspace) ?_ ?_
  · rintro _ rfl
    exact ⟨fun _ => nofun, hfresh, fun _ _ _ heq => (Call.create.inj heq).2.2.symm⟩
  · rintro _ reply rfl -
    exact Memory.added_put (r := (m.create title workspace none now).1) h.orderly
      (hfresh.absent h.orderly.sound) rfl rfl k.form_id

/-- An operation that is refused, or only looks, leaves the records as they were; any other
changes what it names. -/
theorem effect_operation (settings : Settings) (h : k.Shadows w.store m) (hnow : OnClock now)
    (hgenuine : o.Genuine) (hdraws : o.Draws (m.seen k.form) m.ids) :
    Effect k m o (o.run settings k now w) := by
  have hsound := h.orderly.sound
  cases hreads : o.reads with
  | true => exact .kept (run_recalls h hnow.zoned (recalls_of_reads settings hreads)) (.inl hreads)
  | false =>
    cases o with
    | create title workspace =>
      exact effect_create settings h hnow (fresh_of_draws hsound hdraws)
    | saveDraft id draft =>
      refine effect_of_commits h hnow.zoned (commits_saveDraft k now m id draft) ?_ ?_
      · rintro _ rfl
        exact ⟨hgenuine, trivial, fun _ _ _ => nofun⟩
      · rintro _ reply rfl hok
        exact Kind.redrafted_run hsound hok
    | apply id proposal =>
      refine effect_of_commits h hnow.zoned
        (commits_apply k now h.genuine settings id proposal) ?_ ?_
      · rintro _ ⟨q, -, rfl, hdraft⟩
        exact ⟨hdraft, trivial, fun _ _ _ => nofun⟩
      · rintro _ reply ⟨q, -, rfl, -⟩ hok
        exact Kind.redrafted_run hsound hok
    | publish id =>
      refine effect_of_commits h hnow.zoned
        (commits_publish k hnow.valid h.genuine settings id) ?_ ?_
      · rintro _ ⟨q, -, rfl, hsnapshot⟩
        exact ⟨hsnapshot, trivial, fun _ _ _ => nofun⟩
      · rintro _ reply ⟨q, -, rfl, -⟩ hok
        exact Kind.republished_run hsound hok
    | submit slug answers metadata =>
      refine effect_of_commits h hnow.zoned
        (commits_submit k now hsound slug answers metadata) ?_ ?_
      · rintro _ ⟨r, kept, trail, rfl, -⟩
        exact ⟨trivial, hdraws r.id _ rfl, fun _ _ _ => nofun⟩
      · rintro _ reply ⟨r, kept, trail, rfl, hr, rfl⟩ -
        exact Kind.received_run hsound hr kept trail
    | _ => cases hreads

end

/-- What becomes of a store that begins empty when the service is asked one thing after the
other. -/
inductive Reached (settings : Settings) (k : Kind) : World k.State → Prop
  | start {w : World k.State} (ids : Ids) : w.store = k.empty ids → Reached settings k w
  | step {w : World k.State} {now : Timestamp} (o : Operation) : Reached settings k w →
      OnClock now → o.Genuine → o.Draws (k.holdings now w.store) (k.ids w.store) →
      Reached settings k (o.run settings k now w).2

theorem Reached.shadows {w : World k.State} (h : Reached settings k w) :
    ∃ m, k.Shadows w.store m := by
  induction h with
  | start ids hstore => exact ⟨_, hstore ▸ Kind.shadows_empty k ids⟩
  | step o _ hnow hgenuine hdraws ih =>
    obtain ⟨m, hm⟩ := ih
    rw [hm.holdings_eq, hm.ids_eq] at hdraws
    cases effect_operation settings hm hnow hgenuine hdraws with
    | kept hnext => exact ⟨m, hnext⟩
    | changed n reply hnext => exact ⟨n, hnext⟩

/-- Whatever is asked of the service, a refusal leaves all that can be read from its store as it
was, and a success changes what the operation names. -/
theorem operations_atomic {w : World k.State} (h : Reached settings k w) (hnow : OnClock now)
    (hgenuine : o.Genuine) (hdraws : o.Draws (k.holdings now w.store) (k.ids w.store))
    (moment : Timestamp) :
    (o.reads = true ∨ (∃ e, (o.run settings k now w).1 = .error e) →
      k.holdings moment (o.run settings k now w).2.store =
        k.holdings moment w.store) ∧
    ∀ reply, (o.run settings k now w).1 = .ok reply →
      o.Changes (k.holdings moment w.store)
        (k.holdings moment (o.run settings k now w).2.store) := by
  obtain ⟨m, hm⟩ := h.shadows
  rw [hm.holdings_eq, hm.ids_eq] at hdraws
  rw [hm.holdings_eq]
  cases effect_operation settings hm hnow hgenuine hdraws with
  | kept hnext hkept =>
    rw [hnext.holdings_eq]
    refine ⟨fun _ => rfl, fun reply hreply => ?_⟩
    rcases hkept with hreads | ⟨e, herror⟩
    · exact (Operation.changes_iff_of_reads hreads).2 rfl
    · rw [herror] at hreply
      cases hreply
  | changed n reply hnext hreply hchanges =>
    rw [hnext.holdings_eq]
    refine ⟨fun hkept => ?_, fun _ _ => hchanges⟩
    rcases hkept with hreads | ⟨e, herror⟩
    · exact (Operation.changes_iff_of_reads hreads).1 hchanges
    · rw [herror] at hreply
      cases hreply

def eight : Timestamp := ⟨2024, 5, 1, 8, 0, 0, 0, some 0⟩

/-- A service over a store of documents that holds nothing. -/
def blank : World (Kind.State .ordered) where
  store := Kind.empty ⟨toString, 0⟩ .ordered
  publisher := ⟨"", .absent, []⟩
  model := ⟨"", [], 0⟩

def opened : World (Kind.State .ordered) :=
  ((Operation.create "Notes" "home").run ⟨{}, false, .usual⟩ .ordered eight blank).2

def oneSection : Draft where
  metadata := { title := "Notes" }
  sections := [⟨"start", "", none, [], []⟩]

def outcome (o : Operation) : Except Refusal o.Reply × World (Kind.State .ordered) :=
  o.run ⟨{}, false, .usual⟩ .ordered eight opened

theorem onClock_eight : OnClock eight := by
  refine ⟨?_, rfl⟩
  constructor <;> decide

theorem reached_opened : Reached ⟨{}, false, .usual⟩ .ordered opened := by
  refine .step (.create "Notes" "home") (.start ⟨toString, 0⟩ rfl) onClock_eight trivial ?_
  intro id r hr
  cases hr

theorem operations_atomic_opened :
    (outcome (.saveDraft "intake_1" oneSection)).1.toBool = true ∧
      (outcome (.publish "intake_1")).1.toBool = false ∧
      (Kind.holdings eight .ordered opened.store).Redrafted "intake_1"
        (Kind.holdings eight .ordered (outcome (.saveDraft "intake_1" oneSection)).2.store) ∧
      Kind.holdings eight .ordered (outcome (.publish "intake_1")).2.store =
        Kind.holdings eight .ordered opened.store := by
  have hsaves : (outcome (.saveDraft "intake_1" oneSection)).1.toBool = true := by
    decide +kernel
  have hrefuses : (outcome (.publish "intake_1")).1.toBool = false := by
    decide +kernel
  have hgenuine : oneSection.Genuine := by simp [oneSection, Draft.Genuine, Section.Genuine]
  refine ⟨hsaves, hrefuses, ?_, ?_⟩
  · cases hreply : (outcome (.saveDraft "intake_1" oneSection)).1 with
    | ok reply =>
      exact (operations_atomic (o := .saveDraft "intake_1" oneSection) reached_opened onClock_eight
        hgenuine trivial eight).2 reply hreply
    | error e =>
      rw [hreply] at hsaves
      cases hsaves
  · cases hreply : (outcome (.publish "intake_1")).1 with
    | ok reply =>
      rw [hreply] at hrefuses
      cases hrefuses
    | error e =>
      exact (operations_atomic (o := .publish "intake_1") reached_opened onClock_eight trivial
        trivial eight).1 (.inr ⟨e, hreply⟩)

end IntakeForms.Service
