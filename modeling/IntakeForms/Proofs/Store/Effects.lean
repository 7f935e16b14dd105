import IntakeForms.Proofs.Store.Documents
import Mathlib.Logic.Function.Basic

/-! What calls do to a store, whichever of the two it is.  Beside each store stands one in memory
that holds the records as they were handed in; whatever a call does to the one it does to the
other, and a call that fails does nothing to either. -/

namespace IntakeForms

/-- What can be read from a store: the identifiers in order, and what is under each. -/
@[ext]
structure Holdings where
  ids : List String
  record? : String → Except Failure (Option Record)
  submissions : String → Except Failure (List Submission)

namespace Holdings

def put (h : Holdings) (id : String) (r : Record) : Holdings :=
  { h with record? := Function.update h.record? id (.ok (some r)) }

def receive (h : Holdings) (id : String) (stored : List Submission) : Holdings :=
  { h with submissions := Function.update h.submissions id (.ok stored) }

def Added (before after : Holdings) : Prop :=
  ∃ r, r.id ∉ before.ids ∧ before.submissions r.id = .ok [] ∧
    after = { before.put r.id r with ids := before.ids ++ [r.id] }

def Redrafted (id : String) (before after : Holdings) : Prop :=
  ∃ r draft moment, before.record? id = .ok (some r) ∧
    after = before.put id { r with draft := draft, updatedAt := moment }

def Republished (id : String) (before after : Holdings) : Prop :=
  ∃ r snapshot moment, before.record? id = .ok (some r) ∧
    after = before.put id { r with published := some snapshot, updatedAt := moment }

def Received (slug : String) (before after : Holdings) : Prop :=
  ∃ r stored s, before.record? r.id = .ok (some r) ∧ r.slug = slug ∧
    (∀ id q, before.record? id = .ok (some q) → q.slug = slug → id = r.id) ∧
    before.submissions r.id = .ok stored ∧ after = before.receive r.id (stored ++ [s])

end Holdings

namespace Memory

variable {m : Memory} {now : Timestamp} {c : Call} {id : String} {r : Record}

def seen (form : Record → Record) (m : Memory) : Holdings where
  ids := Entries.keys m.records
  record? id := .ok ((m.record? id).map form)
  submissions id := .ok (m.submissionsOf id)

theorem record?_seen_put {n : Memory} {form : Record → Record}
    (hn : n.records = Entries.put r.id r m.records) :
    (n.seen form).record? =
      Function.update (m.seen form).record? r.id (.ok (some (form r))) := by
  funext i
  change Except.ok ((n.record? i).map form) = _
  rw [record?_put hn, Function.update_apply]
  by_cases hi : r.id = i
  · rw [if_pos hi, if_pos hi.symm, Option.map_some]
  · rw [if_neg hi, if_neg (Ne.symm hi)]
    rfl

theorem seen_store {form : Record → Record} (h : m.Sound) (hr : m.record? id = some r)
    {changed : Record} (hid : changed.id = r.id) :
    (m.store changed).seen form = (m.seen form).put id (form changed) := by
  have hkey : changed.id = id := hid.trans (h.keyed hr)
  have hmem : id ∈ Entries.keys m.records := List.mem_map_of_mem (Entries.mem_of_get? hr)
  refine Holdings.ext ?_ ?_ rfl
  · change Entries.keys (Entries.put changed.id changed m.records) = Entries.keys m.records
    rw [hkey, Entries.keys_put, if_pos hmem]
  · rw [record?_seen_put (m := m) (r := changed) rfl, hkey]
    rfl

theorem seen_addSubmission {form : Record → Record} (answers : Answer.Answers) (trail : Trail) :
    (m.addSubmission id answers trail now).2.seen form =
      (m.seen form).receive id
        (m.submissionsOf id ++ [(m.addSubmission id answers trail now).1]) := by
  refine Holdings.ext rfl rfl (funext fun i => ?_)
  change Except.ok ((m.addSubmission id answers trail now).2.submissionsOf i) =
    Function.update (m.seen form).submissions id _ i
  rw [submissionsOf_put (m := m) (n := (m.addSubmission id answers trail now).2) rfl,
    Function.update_apply]
  by_cases hi : id = i
  · rw [if_pos hi, if_pos hi.symm]
    rfl
  · rw [if_neg hi, if_neg (Ne.symm hi)]
    rfl

theorem added_put {n : Memory} {form : Record → Record} (h : m.Orderly)
    (habsent : m.record? r.id = none) (hrecords : n.records = Entries.put r.id r m.records)
    (hsubmissions : n.submissions = Entries.put r.id [] m.submissions)
    (hform : ∀ r, (form r).id = r.id) : (m.seen form).Added (n.seen form) := by
  have hnew : r.id ∉ Entries.keys m.records := by
    intro hmem
    obtain ⟨⟨key, q⟩, he, hkey⟩ := List.mem_map.1 hmem
    have hq : m.record? key = some q := Entries.get?_of_mem h.sound.nodup he
    rw [show key = r.id from hkey, habsent] at hq
    cases hq
  have hsent := h.submissionsOf_absent habsent
  refine ⟨form r, ?_, ?_, Holdings.ext ?_ ?_ ?_⟩
  · rwa [hform]
  · rw [hform]
    exact congrArg Except.ok hsent
  · rw [hform, seen, hrecords, Entries.keys_put, if_neg hnew]
    rfl
  · rw [hform, record?_seen_put hrecords]
    rfl
  · funext i
    change Except.ok (n.submissionsOf i) = Except.ok (m.submissionsOf i)
    rw [submissionsOf_put hsubmissions]
    split
    · next hi =>
      rw [← hi, hsent]
    · rfl

theorem run_error {e : Failure} (h : (m.run now c).1 = .error e) : (m.run now c).2 = m := by
  cases c with
  | saveDraft id draft => cases hr : m.record? id <;> simp_all [run]
  | publish id snapshot => cases hr : m.record? id <;> simp_all [run]
  | addSubmission id answers trail => cases hr : m.record? id <;> simp_all [run]
  | submissions id limit => cases hr : m.record? id <;> simp_all [run]
  | _ => cases h

end Memory

namespace Call

def Reads : Call → Prop
  | .get _ | .bySlug _ | .list _ | .submissions .. => True
  | _ => False

theorem Reads.run_eq {c : Call} (h : c.Reads) (now : Timestamp) (m : Memory) :
    (m.run now c).2 = m := by
  cases c with
  | submissions id limit => cases hr : m.record? id <;> simp [Memory.run, hr]
  | get id => rfl
  | bySlug slug => rfl
  | list workspace => rfl
  | _ => exact h.elim

end Call

theorem Call.reads_of_lists {c : Call} (h : c.lists = true) : c.Reads := by
  cases c <;> trivial

namespace Documents

def seen (now : Timestamp) (d : Documents) : Holdings where
  ids := Entries.keys d.intakes
  record? := d.record? now
  submissions id := (d.collection id).mapM fun e => toSubmission id e.1 e.2

theorem Holds.seen_eq {d : Documents} {m : Memory} (h : d.Holds m) (hm : m.Orderly)
    (now : Timestamp) : d.seen now = m.seen Record.plain := by
  have hkeys : Entries.keys d.intakes = Entries.keys m.records := by
    rw [h.intakes, Entries.keys, List.map_map]
    rfl
  have hrecords : d.record? now = (m.seen Record.plain).record? :=
    funext fun id => h.record?_eq hm.sound now id
  have hsubmissions : (fun id => (d.collection id).mapM fun e => toSubmission id e.1 e.2) =
      (m.seen Record.plain).submissions :=
    funext fun id => h.mapM_collection fun s hs => (hm.owned hs).1
  rw [seen, hkeys, hrecords, hsubmissions]
  rfl

end Documents

namespace Store

/-- The two stores; that of documents with what its queries answer. -/
inductive Kind
  | memory
  | documents (queries : Queries)

namespace Kind

def State : Kind → Type
  | .memory => Memory
  | .documents _ => Documents

def backend : (k : Kind) → Backend k.State
  | .memory => Memory.backend
  | .documents q => Documents.backend q

abbrev ordered : Kind := .documents .ordered

def empty (ids : Ids) : (k : Kind) → k.State
  | .memory => ({ ids := ids } : Memory)
  | .documents _ => ({ ids := ids } : Documents)

def ids : (k : Kind) → k.State → Ids
  | .memory, m => Memory.ids m
  | .documents _, d => Documents.ids d

/-- What can be read from the store at a moment. -/
def holdings (now : Timestamp) : (k : Kind) → k.State → Holdings
  | .memory, m => Memory.seen id m
  | .documents _, d => Documents.seen now d

def form : Kind → Record → Record
  | .memory => id
  | .documents _ => Record.plain

def written : (k : Kind) → (c : Call) → c.Reply → c.Reply
  | .memory, _, reply => reply
  | .documents _, c, reply => c.written reply

def Shows (k : Kind) (c : Call) (reply shown : c.Reply) : Prop :=
  c.lists = false → shown = k.written c reply

def Keeps : (k : Kind) → k.State → Memory → Prop
  | .memory, s, m => s = m
  | .documents _, d, m => Documents.Holds d m

/-- The store holds what the records and submissions in memory say, in its own form. -/
structure Shadows (k : Kind) (s : k.State) (m : Memory) : Prop where
  keeps : k.Keeps s m
  orderly : m.Orderly
  genuine : ∀ r ∈ m.all, r.Genuine

variable {k : Kind} {s : k.State} {m : Memory} {now : Timestamp} {c : Call}

theorem shadows_empty (k : Kind) (ids : Ids) : k.Shadows (k.empty ids) { ids := ids } := by
  refine ⟨?_, .empty rfl rfl, by simp [Memory.all]⟩
  cases k with
  | memory => rfl
  | documents q => exact ⟨rfl, rfl, fun _ => rfl, by simp [Memory.all]⟩

namespace Shadows

theorem ids_eq (h : k.Shadows s m) : k.ids s = m.ids := by
  cases k with
  | memory => exact congrArg Memory.ids h.keeps
  | documents q => exact h.keeps.ids

theorem holdings_eq (h : k.Shadows s m) (now : Timestamp) : k.holdings now s = m.seen k.form := by
  cases k with
  | memory => exact congrArg (Memory.seen id) h.keeps
  | documents q => exact Documents.Holds.seen_eq h.keeps h.orderly now

/-- A call that hands in what cannot be written is refused before anything is put. -/
theorem run_unwritten {q : Queries} {d : Documents} {o : Obstacle}
    (h : (Kind.documents q).Shadows d m) (now : Timestamp) (hobstacle : c.obstacle? = some o)
    (hcreate : ∀ title workspace draft, c = .create title workspace draft → draft = none) :
    (Kind.documents q).Shadows (Documents.run q now c d).state m ∧
      (Documents.run q now c d).reply = .error (.unwritable o) := by
  -- a form that is made without a draft can be written
  have hother : ∀ title workspace draft, c ≠ .create title workspace draft := by
    rintro title workspace draft rfl
    rw [hcreate title workspace draft rfl] at hobstacle
    cases hobstacle
  rw [Documents.run_obstructed hobstacle hother q now d]
  exact ⟨h, rfl⟩

theorem run_written {q : Queries} {d : Documents} (h : (Kind.documents q).Shadows d m)
    (hnow : now.offset.isSome = true) (hgenuine : c.Genuine) (hdraws : m.Draws c)
    (hobstacle : c.obstacle? = none) :
    ((Kind.documents q).Shadows (Documents.run q now c d).state m ∧
        ∃ e, (Documents.run q now c d).reply = .error e) ∨
      ∃ reply shown, (m.run now c).1 = .ok reply ∧ (Documents.run q now c d).reply = .ok shown ∧
        (Kind.documents q).Shows c reply shown ∧
        (Kind.documents q).Shadows (Documents.run q now c d).state (m.run now c).2 := by
  have hkeeps : Documents.Holds d m := h.keeps
  obtain ⟨hnext, hanswer⟩ := hkeeps.run h.orderly q now hgenuine hdraws hobstacle
  cases hreply : (m.run now c).1 with
  | error e =>
    rw [Memory.run_error hreply] at hnext
    refine .inl ⟨⟨hnext, h.orderly, h.genuine⟩, e, ?_⟩
    cases hlists : c.lists with
    | false => exact (hanswer hlists).trans (by rw [hreply]; rfl)
    | true => exact hkeeps.run_lists h.orderly.sound q now hlists hreply
  | ok reply =>
    rw [hreply] at hanswer
    cases hshown : (Documents.run q now c d).reply with
    | ok shown =>
      refine .inr ⟨reply, shown, rfl, rfl, fun hlists => ?_, hnext, h.orderly.run hnow hdraws,
        Memory.genuine_run h.genuine now hgenuine⟩
      exact Except.ok.inj (hshown.symm.trans (hanswer hlists))
    | error e =>
      -- only a list can be refused where the records give one
      have hlists : c.lists = true := by
        refine Bool.of_not_eq_false fun hlists => ?_
        rw [hanswer hlists] at hshown
        cases hshown
      rw [(Call.reads_of_lists hlists).run_eq] at hnext
      exact .inl ⟨⟨hnext, h.orderly, h.genuine⟩, e, rfl⟩

theorem run (h : k.Shadows s m) (hnow : now.offset.isSome = true) (hgenuine : c.Genuine)
    (hdraws : m.Draws c)
    (hcreate : ∀ title workspace draft, c = .create title workspace draft → draft = none) :
    (k.Shadows (k.backend.run now c s).state m ∧
        ∃ e, (k.backend.run now c s).reply = .error e) ∨
      ∃ reply shown, (m.run now c).1 = .ok reply ∧ (k.backend.run now c s).reply = .ok shown ∧
        k.Shows c reply shown ∧ k.Shadows (k.backend.run now c s).state (m.run now c).2 := by
  cases k with
  | memory =>
    obtain rfl : s = m := h.keeps
    cases hreply : (Memory.run now c s).1 with
    | error e => exact .inl ⟨⟨Memory.run_error hreply, h.orderly, h.genuine⟩, e, hreply⟩
    | ok reply =>
      exact .inr ⟨reply, reply, rfl, hreply, fun _ => rfl, rfl, h.orderly.run hnow hdraws,
        Memory.genuine_run h.genuine now hgenuine⟩
  | documents q =>
    cases hobstacle : c.obstacle? with
    | none => exact run_written h hnow hgenuine hdraws hobstacle
    | some o =>
      obtain ⟨hnext, hrefused⟩ := run_unwritten h now hobstacle hcreate
      exact .inl ⟨hnext, _, hrefused⟩

/-- A call that hands in nothing that cannot be written is answered as by the records, in their
written form, unless the answer is a list. -/
theorem reply_eq (h : k.Shadows s m) (now : Timestamp) (hgenuine : c.Genuine) (hdraws : m.Draws c)
    (hobstacle : c.obstacle? = none) (hlists : c.lists = false) :
    (k.backend.run now c s).reply = (m.run now c).1.map (k.written c) := by
  cases k with
  | memory =>
    obtain rfl : s = m := h.keeps
    change (Memory.run now c s).1 = _
    cases (Memory.run now c s).1 <;> rfl
  | documents q =>
    exact (Documents.Holds.run h.keeps h.orderly q now hgenuine hdraws hobstacle).2 hlists

theorem run_ok (h : k.Shadows s m) (hnow : now.offset.isSome = true) (hgenuine : c.Genuine)
    (hdraws : m.Draws c) (hobstacle : c.obstacle? = none)
    (hcreate : ∀ title workspace draft, c = .create title workspace draft → draft = none)
    (hlists : c.lists = false) {reply : c.Reply} (hok : (m.run now c).1 = .ok reply) :
    (k.backend.run now c s).reply = .ok (k.written c reply) ∧
      k.Shadows (k.backend.run now c s).state (m.run now c).2 := by
  have hreply := h.reply_eq now hgenuine hdraws hobstacle hlists
  rw [hok] at hreply
  rcases h.run hnow hgenuine hdraws hcreate with ⟨-, e, he⟩ | ⟨-, -, -, -, -, hnext⟩
  · rw [hreply] at he
    cases he
  · exact ⟨hreply, hnext⟩

theorem run_reads (h : k.Shadows s m) (hnow : now.offset.isSome = true) (hc : c.Reads) :
    (k.Shadows (k.backend.run now c s).state m ∧
        ∃ e, (k.backend.run now c s).reply = .error e) ∨
      ∃ reply shown, (m.run now c).1 = .ok reply ∧ (k.backend.run now c s).reply = .ok shown ∧
        k.Shows c reply shown ∧ k.Shadows (k.backend.run now c s).state m := by
  have hrun := h.run (c := c) hnow (by cases c <;> trivial) (by cases c <;> trivial)
    (by rintro title workspace draft rfl; exact hc.elim)
  rwa [hc.run_eq] at hrun

end Shadows

@[simp] theorem form_id (k : Kind) (r : Record) : (k.form r).id = r.id := by
  cases k <;> rfl

@[simp] theorem form_slug (k : Kind) (r : Record) : (k.form r).slug = r.slug := by
  cases k <;> rfl

theorem redrafted_run (h : m.Sound) {id : String} {draft : Draft} {reply : Record}
    (hok : (m.run now (.saveDraft id draft)).1 = .ok reply) :
    (m.seen k.form).Redrafted id ((m.run now (.saveDraft id draft)).2.seen k.form) := by
  cases hr : m.record? id with
  | none => simp [Memory.run, hr] at hok
  | some r =>
    have hfound : (m.seen k.form).record? id = .ok (some (k.form r)) :=
      congrArg (fun found => Except.ok (Option.map k.form found)) hr
    have hnext : (m.run now (.saveDraft id draft)).2 =
        m.store { r with draft := draft, updatedAt := now } := by
      simp only [Memory.run, hr]
    rw [hnext, Memory.seen_store h hr (by rfl)]
    refine ⟨k.form r, (k.form { r with draft := draft }).draft, now, hfound, ?_⟩
    cases k <;> rfl

theorem republished_run (h : m.Sound) {id : String} {snapshot : Snapshot} {reply : Record}
    (hok : (m.run now (.publish id snapshot)).1 = .ok reply) :
    (m.seen k.form).Republished id ((m.run now (.publish id snapshot)).2.seen k.form) := by
  cases hr : m.record? id with
  | none => simp [Memory.run, hr] at hok
  | some r =>
    have hfound : (m.seen k.form).record? id = .ok (some (k.form r)) :=
      congrArg (fun found => Except.ok (Option.map k.form found)) hr
    have hnext : (m.run now (.publish id snapshot)).2 =
        m.store { r with published := some snapshot, updatedAt := now } := by
      simp only [Memory.run, hr]
    rw [hnext, Memory.seen_store h hr (by rfl)]
    cases k with
    | memory => exact ⟨_, snapshot, now, hfound, rfl⟩
    | documents q => exact ⟨_, snapshot.plain, now, hfound, rfl⟩

theorem received_run (h : m.Sound) {r : Record} (hr : m.record? r.id = some r)
    (answers : Answer.Answers) (trail : Trail) :
    (m.seen k.form).Received r.slug
      ((m.run now (.addSubmission r.id answers trail)).2.seen k.form) := by
  have hnext : (m.run now (.addSubmission r.id answers trail)).2 =
      (m.addSubmission r.id answers trail now).2 := by
    simp only [Memory.run, hr]
  rw [hnext, Memory.seen_addSubmission]
  refine ⟨k.form r, m.submissionsOf r.id, (m.addSubmission r.id answers trail now).1, ?_,
    k.form_slug r, fun id q hq hslug => ?_, ?_, ?_⟩
  · rw [form_id]
    exact congrArg (fun found => Except.ok (Option.map k.form found)) hr
  · obtain ⟨q', hq', rfl⟩ := Option.map_eq_some_iff.1 (Except.ok.inj hq)
    rw [form_slug] at hslug
    rw [form_id]
    exact h.slugs hq' hr hslug
  · rw [form_id]
    rfl
  · rw [form_id]

end Kind

end Store

end IntakeForms
