import IntakeForms.Proofs.Service.TrailBounds
import IntakeForms.Proofs.Service.Turns

/-! What becomes of one form while others are made.  The account of a form follows the requests
that name it and no others; as long as what is drawn is not in use, the store holds under its
identifier, and finds by its slug, exactly what the account says, whatever else is asked. -/

namespace IntakeForms

namespace Memory

variable (m : Memory) (title workspace : String) (now : Timestamp) (id : String)

theorem record?_create : (m.create title workspace none now).2.record? id =
    if (m.create title workspace none now).1.id = id then some (m.create title workspace none now).1
    else m.record? id :=
  record?_put rfl id

theorem submissionsOf_create : (m.create title workspace none now).2.submissionsOf id =
    if (m.create title workspace none now).1.id = id then [] else m.submissionsOf id :=
  submissionsOf_put rfl id

end Memory

namespace Service

open Store Answer

/-- A form, as it was handed in, and the submissions to it. -/
structure Account where
  record : Record
  submissions : List Submission := []

namespace Account

def edit (id : String) (change : Record → Record) (a : Account) : Account :=
  if id = a.record.id then { a with record := change a.record } else a

def receive (slug : String) (s : Submission) (a : Account) : Account :=
  if slug = a.record.slug then { a with submissions := a.submissions ++ [s] } else a

/-- Follows a request and the reply to it. -/
def follow (k : Kind) (now : Timestamp) (a : Account) :
    (o : Operation) → Except Refusal o.Reply → Account
  | .saveDraft id draft, .ok _ => a.edit id fun r => { r with draft := draft, updatedAt := now }
  | .apply id p, .ok _ =>
    a.edit id fun r => { r with draft := mergedDraft k p r, updatedAt := now }
  | .publish id, .ok _ =>
    a.edit id fun r => { r with published := some (frozenDraft k now r), updatedAt := now }
  | .submit slug _ _, .ok s => a.receive slug s
  | _, _ => a

def along (settings : Settings) (k : Kind) : Account → World k.State → History → Account
  | a, _, [] => a
  | a, w, (now, o) :: rest =>
    along settings k (a.follow k now o (o.run settings k now w).1) (o.run settings k now w).2 rest

/-- The records have the form under its identifier, with its submissions beside it. -/
structure Kept (a : Account) (m : Memory) : Prop where
  record : m.record? a.record.id = some a.record
  submissions : m.submissionsOf a.record.id = a.submissions

variable {k : Kind} {now : Timestamp} {a : Account} {m n : Memory}

theorem follow_of_kept {o : Operation} {reply : Except Refusal o.Reply}
    (h : o.reads = true ∨ ∃ e, reply = .error e) : a.follow k now o reply = a := by
  rcases h with hreads | ⟨e, rfl⟩
  · cases o <;> first | rfl | cases hreads
  · cases o <;> rfl

theorem name_edit {id : String} {change : Record → Record}
    (h : ∀ r, (change r).id = r.id ∧ (change r).slug = r.slug) :
    (a.edit id change).record.id = a.record.id ∧
      (a.edit id change).record.slug = a.record.slug := by
  unfold edit
  split
  · exact h a.record
  · exact ⟨rfl, rfl⟩

theorem name_follow (k : Kind) (now : Timestamp) (a : Account) (o : Operation)
    (reply : Except Refusal o.Reply) :
    (a.follow k now o reply).record.id = a.record.id ∧
      (a.follow k now o reply).record.slug = a.record.slug := by
  cases reply with
  | error e => rw [follow_of_kept (.inr ⟨e, rfl⟩)]; exact ⟨rfl, rfl⟩
  | ok x =>
    cases o with
    | saveDraft id draft => exact name_edit fun _ => ⟨rfl, rfl⟩
    | apply id p => exact name_edit fun _ => ⟨rfl, rfl⟩
    | publish id => exact name_edit fun _ => ⟨rfl, rfl⟩
    | submit slug answers metadata =>
      change (a.receive slug x).record.id = _ ∧ (a.receive slug x).record.slug = _
      unfold receive
      split <;> exact ⟨rfl, rfl⟩
    | _ => exact ⟨rfl, rfl⟩

theorem Kept.edit (h : a.Kept m) (hm : m.Sound) {id : String} {q : Record}
    (hq : m.record? id = some q) (change : Record → Record) (hid : ∀ r, (change r).id = r.id) :
    (a.edit id change).Kept (m.store (change q)) := by
  have hkey : (change q).id = id := (hid q).trans (hm.keyed hq)
  unfold Account.edit
  split
  · next heq =>
    subst heq
    obtain rfl : q = a.record := Option.some.inj (hq.symm.trans h.record)
    refine ⟨Memory.record?_store m _, ?_⟩
    change m.submissionsOf (change a.record).id = a.submissions
    rw [hkey, h.submissions]
  · next hne =>
    refine ⟨?_, h.submissions⟩
    rw [Memory.record?_put (m := m) rfl, hkey, if_neg hne]
    exact h.record

theorem Kept.receive (h : a.Kept m) (hm : m.Sound) {q : Record} (hq : m.record? q.id = some q)
    (answers : Answers) (trail : Trail) (now : Timestamp) :
    (a.receive q.slug (m.addSubmission q.id answers trail now).1).Kept
      (m.addSubmission q.id answers trail now).2 := by
  have hsubmissions (id : String) := Memory.submissionsOf_put (m := m)
    (n := (m.addSubmission q.id answers trail now).2) rfl id
  unfold Account.receive
  split
  · next hslug =>
    have hid : q.id = a.record.id := hm.slugs hq h.record hslug
    refine ⟨h.record, (hsubmissions a.record.id).trans ?_⟩
    rw [if_pos hid, hid, h.submissions]
    rfl
  · next hslug =>
    have hid : q.id ≠ a.record.id := by
      intro hid
      rw [hid, h.record] at hq
      exact hslug (congrArg Record.slug (Option.some.inj hq)).symm
    exact ⟨h.record, (hsubmissions a.record.id).trans (by rw [if_neg hid, h.submissions])⟩

theorem Kept.create (h : a.Kept m) {title : String} (hfresh : m.Fresh title) (workspace : String)
    (now : Timestamp) : a.Kept (m.create title workspace none now).2 := by
  have hne : (m.create title workspace none now).1.id ≠ a.record.id := fun heq =>
    (hfresh a.record (Memory.mem_all_of_record? h.record)).1 heq.symm
  exact ⟨by rw [Memory.record?_create, if_neg hne, h.record],
    by rw [Memory.submissionsOf_create, if_neg hne, h.submissions]⟩

theorem Kept.turn (h : a.Kept m) (hm : m.Sound) {o : Operation} {reply : Except Refusal o.Reply}
    (hturn : Turn k now m o reply n) : (a.follow k now o reply).Kept n := by
  cases hturn with
  | kept hkept => rwa [follow_of_kept hkept]
  | created hfresh => exact h.create hfresh _ now
  | @saved id draft q _ hq =>
    exact h.edit hm hq (fun r => { r with draft := draft, updatedAt := now }) fun _ => rfl
  | @applied id p q _ hq =>
    exact h.edit hm hq (fun r => { r with draft := mergedDraft k p r, updatedAt := now })
      fun _ => rfl
  | @published id q _ hq =>
    exact h.edit hm hq
      (fun r => { r with published := some (frozenDraft k now r), updatedAt := now }) fun _ => rfl
  | received hq => exact h.receive hm hq _ _ now

theorem Kept.found (h : a.Kept m) (settings : Settings) {w : World k.State}
    (hm : k.Shadows w.store m) (moment : Timestamp) :
    (∀ s ∈ a.submissions, s.intakeId = a.record.id) ∧
      ((Operation.get a.record.id).run settings k moment w).1 = .ok (k.form a.record) ∧
      (k.holdings moment w.store).submissions a.record.id = .ok a.submissions ∧
      (k.backend.run moment (.bySlug a.record.slug) w.store).reply =
        .ok (some (k.form a.record)) ∧
      ((Operation.published a.record.slug).run settings k moment w).1 =
        match (k.form a.record).published with
        | some s => .ok (k.form a.record, s)
        | none => .error (.intakeNotFound a.record.slug) := by
  have hfind := hm.orderly.sound.find_slug (Memory.mem_all_of_record? h.record)
  refine ⟨fun s hs => ?_, ?get, ?submissions, ?slug, ?published⟩
  · rw [← h.submissions] at hs
    exact (hm.orderly.owned hs).1
  case get => exact (run_get hm moment a.record.id).trans (by rw [h.record])
  case submissions =>
    rw [hm.holdings_eq]
    exact congrArg Except.ok h.submissions
  case slug =>
    rw [reply_bySlug hm, hfind]
    rfl
  case published =>
    refine (run_published_form hm moment a.record.slug).trans ?_
    rw [hfind]
    rfl

end Account

/-- Every request comes at a moment of the clock, with what could be read from a document, and
draws nothing that is in use. -/
def Proper (settings : Settings) (k : Kind) : World k.State → History → Prop
  | _, [] => True
  | w, (now, o) :: rest =>
    OnClock now ∧ o.Genuine ∧ o.Draws (k.holdings now w.store) (k.ids w.store) ∧
      Proper settings k (o.run settings k now w).2 rest

variable {settings : Settings} {k : Kind} {w : World k.State} {now : Timestamp} {m : Memory}
  {earlier later : History}

theorem proper_append :
    Proper settings k w (earlier ++ later) ↔
      Proper settings k w earlier ∧ Proper settings k (after settings k w earlier) later := by
  induction earlier generalizing w with
  | nil => exact (true_and _ ▸ Iff.rfl)
  | cons asked rest ih =>
    obtain ⟨now, o⟩ := asked
    simp only [List.cons_append, Proper, ih, and_assoc]
    rfl

theorem turn_of_proper {o : Operation} (h : k.Shadows w.store m)
    (hproper : Proper settings k w ((now, o) :: later)) :
    ∃ n, k.Shadows (o.run settings k now w).2.store n ∧
      Turn k now m o (o.run settings k now w).1 n := by
  obtain ⟨hnow, hgenuine, hdraws, -⟩ := hproper
  rw [h.holdings_eq, h.ids_eq] at hdraws
  exact turn_operation settings h hnow hgenuine hdraws

theorem shadows_after (h : k.Shadows w.store m) (hproper : Proper settings k w earlier) :
    ∃ n, k.Shadows (after settings k w earlier).store n := by
  induction earlier generalizing w m with
  | nil => exact ⟨m, h⟩
  | cons asked rest ih =>
    obtain ⟨n, hn, -⟩ := turn_of_proper h hproper
    exact ih hn hproper.2.2.2

theorem kept_along {a : Account} (h : k.Shadows w.store m) (ha : a.Kept m)
    (hproper : Proper settings k w later) :
    ∃ n, k.Shadows (after settings k w later).store n ∧ (a.along settings k w later).Kept n ∧
      (a.along settings k w later).record.id = a.record.id ∧
      (a.along settings k w later).record.slug = a.record.slug := by
  induction later generalizing w m a with
  | nil => exact ⟨m, h, ha, rfl, rfl⟩
  | cons asked rest ih =>
    obtain ⟨now, o⟩ := asked
    obtain ⟨n, hn, hturn⟩ := turn_of_proper h hproper
    obtain ⟨hid, hslug⟩ := a.name_follow k now o (o.run settings k now w).1
    obtain ⟨final, hfinal, hkept, hid', hslug'⟩ :=
      ih hn (ha.turn h.orderly.sound hturn) hproper.2.2.2
    exact ⟨final, hfinal, hkept, hid'.trans hid, hslug'.trans hslug⟩

theorem kept_created (m : Memory) (title workspace : String) (now : Timestamp) :
    (Account.mk (m.create title workspace none now).1 []).Kept
      (m.create title workspace none now).2 := by
  exact ⟨by rw [Memory.record?_create, if_pos rfl], by rw [Memory.submissionsOf_create, if_pos rfl]⟩

/-- Whatever is asked after a form has been made, it is found under its identifier with the draft
and the snapshot that it was last given and with all its submissions, and by its slug alone; so
what is sent to its slug is stored with it. -/
theorem account_stands (settings : Settings) (k : Kind) (ids : Ids) (w : World k.State)
    {title workspace : String} {r : Record}
    (hproper : Proper settings k (vacant k ids w)
      (earlier ++ (now, .create title workspace) :: later))
    (hcreated : ((Operation.create title workspace).run settings k now
      (after settings k (vacant k ids w) earlier)).1 = .ok r) (moment : Timestamp) :
    let a := (Account.mk r []).along settings k
      (after settings k (vacant k ids w) (earlier ++ [(now, .create title workspace)])) later
    let final := after settings k (vacant k ids w)
      (earlier ++ (now, .create title workspace) :: later)
    a.record.id = r.id ∧ a.record.slug = r.slug ∧ (∀ s ∈ a.submissions, s.intakeId = r.id) ∧
      ((Operation.get r.id).run settings k moment final).1 = .ok (k.form a.record) ∧
      (k.holdings moment final.store).submissions r.id = .ok a.submissions ∧
      (k.backend.run moment (.bySlug r.slug) final.store).reply = .ok (some (k.form a.record)) ∧
      ((Operation.published r.slug).run settings k moment final).1 =
        match (k.form a.record).published with
        | some s => .ok (k.form a.record, s)
        | none => .error (.intakeNotFound r.slug) := by
  intro a final
  obtain ⟨hearlier, hrest⟩ := proper_append.1 hproper
  obtain ⟨m, hm⟩ := shadows_after (Kind.shadows_empty k ids) hearlier
  obtain ⟨n, hn, hturn⟩ := turn_of_proper hm hrest
  rw [hcreated] at hturn
  have hnew : (Account.mk r []).Kept n := by
    cases hturn with
    | kept hkept => rcases hkept with hreads | ⟨e, he⟩ <;> contradiction
    | created => exact kept_created m title workspace now
  obtain ⟨n', hn', hkept, hid, hslug⟩ := kept_along hn hnew hrest.2.2.2
  have hworld : after settings k (vacant k ids w) (earlier ++ [(now, .create title workspace)]) =
      ((Operation.create title workspace).run settings k now
        (after settings k (vacant k ids w) earlier)).2 := after_concat _ _
  have hfinal : final = after settings k ((Operation.create title workspace).run settings k now
      (after settings k (vacant k ids w) earlier)).2 later := after_append _ _
  change (Account.along settings k _ _ later).record.id = r.id at hid
  rw [← hworld] at hid hslug hkept
  rw [← hfinal] at hn'
  have hfound := hkept.found settings hn' moment
  rw [hid, hslug] at hfound
  exact ⟨hid, hslug, hfound⟩

theorem draws_create (h : k.Shadows w.store m) {title : String} (hfresh : m.Fresh title)
    (workspace : String) (now : Timestamp) :
    (Operation.create title workspace).Draws (k.holdings now w.store) (k.ids w.store) := by
  rw [h.holdings_eq, h.ids_eq]
  intro id r hr
  obtain ⟨q, hq, rfl⟩ := Option.map_eq_some_iff.1 (Except.ok.inj hr)
  rw [k.form_id, k.form_slug]
  exact hfresh q (Memory.mem_all_of_record? hq)

def talks : History := [(eight, .create "Talk" "home"), (eight, .saveDraft "intake_1" oneSection)]

def talk : Record :=
  ⟨"intake_1", "home", "Talk", "talk-2", Draft.titled "Talk", none, eight, eight⟩

theorem proper_talks :
    Proper ⟨{}, false, .usual⟩ .memory bare ([] ++ (eight, .create "Talk" "home") :: talks) := by
  have hgenuine : oneSection.Genuine := by simp [oneSection, Draft.Genuine, Section.Genuine]
  have hfirst : Memory.Fresh { ids := ⟨toString, 0⟩ } "Talk" := by decide +kernel
  have hsecond : Memory.Fresh
      (Memory.create "Talk" "home" none eight { ids := ⟨toString, 0⟩ }).2 "Talk" := by
    decide +kernel
  have hbare : Kind.Shadows .memory bare.store { ids := ⟨toString, 0⟩ } := Kind.shadows_empty _ _
  have hnext := (turn_create ⟨{}, false, .usual⟩ hbare onClock_eight hfirst "home").1
  exact ⟨onClock_eight, trivial, draws_create hbare hfirst _ _, onClock_eight, trivial,
    draws_create hnext hsecond _ _, onClock_eight, hgenuine, trivial, trivial⟩

theorem account_stands_talks :
    ((Operation.create "Talk" "home").run ⟨{}, false, .usual⟩ .memory eight bare).1 = .ok talk ∧
      ((Operation.get "intake_1").run ⟨{}, false, .usual⟩ .memory eight
        (after ⟨{}, false, .usual⟩ .memory bare ((eight, .create "Talk" "home") :: talks))).1 =
          .ok { talk with draft := oneSection } ∧
      (Memory.backend.run eight (.bySlug "talk-2")
        (after ⟨{}, false, .usual⟩ .memory bare ((eight, .create "Talk" "home") :: talks)).store).reply =
          .ok (some { talk with draft := oneSection }) := by
  have hcreated : ((Operation.create "Talk" "home").run ⟨{}, false, .usual⟩ .memory eight bare).1 =
      .ok talk := by
    decide +kernel
  have hrecord : Kind.form .memory ((Account.mk talk []).along ⟨{}, false, .usual⟩ .memory
      (after ⟨{}, false, .usual⟩ .memory bare [(eight, .create "Talk" "home")]) talks).record =
        { talk with draft := oneSection } := by
    decide +kernel
  obtain ⟨-, -, -, hget, -, hslug, -⟩ := account_stands ⟨{}, false, .usual⟩ .memory
    ⟨toString, 0⟩ bare proper_talks hcreated eight
  exact ⟨hcreated, hget.trans (congrArg _ hrecord), hslug.trans (congrArg _ (congrArg _ hrecord))⟩

def drawn : List String :=
  ["00000100000000000000000000000000", "abcdef00000000000000000000000001",
    "00000200000000000000000000000000", "abcdef00000000000000000000000002"]

def drawing : World (Kind.State .memory) :=
  vacant .memory ⟨fun n => (drawn[n - 1]?).getD "", 0⟩ bare

def firstTalk : Except Refusal Record × World (Kind.State .memory) :=
  (Operation.create "Talk" "home").run ⟨{}, false, .usual⟩ .memory eight drawing

def secondTalk : Except Refusal Record × World (Kind.State .memory) :=
  (Operation.create "Talk" "home").run ⟨{}, false, .usual⟩ .memory eight firstTalk.2

/-- No text is drawn twice, and still the second talk is not found by its slug. -/
theorem shared_slug_hides :
    drawn.Nodup ∧ (∀ text ∈ drawn, text.length = 32) ∧
      ∃ first second, firstTalk.1 = .ok first ∧ secondTalk.1 = .ok second ∧
        first.id ≠ second.id ∧
        ((Operation.get second.id).run ⟨{}, false, .usual⟩ .memory eight secondTalk.2).1 = .ok second ∧
        (Memory.backend.run eight (.bySlug second.slug) secondTalk.2.store).reply =
          .ok (some first) := by
  refine ⟨by decide +kernel, by decide +kernel,
    { talk with id := "intake_000001000000", slug := "talk-abcdef" },
    { talk with id := "intake_000002000000", slug := "talk-abcdef" }, ?_, ?_, ?_, ?_, ?_⟩
  all_goals decide +kernel

end Service

end IntakeForms
