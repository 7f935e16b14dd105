import IntakeForms.Proofs.Store.Moments
import Mathlib

/-! Two stores, one behaviour.  Whatever is asked of a store of documents and of one in memory
that begin empty with the same source of identifiers, one thing after the other, they answer alike,
as long as the drafts and snapshots that are handed in can be written. -/

namespace IntakeForms

/-- Calls at their moments. -/
abbrev Calls := List (Timestamp × Call)

/-- The calls one after the other, each with its reply. -/
def Backend.replies {σ : Type} (b : Backend σ) :
    σ → Calls → List (Σ c : Call, Except Failure c.Reply)
  | _, [] => []
  | s, (now, c) :: rest => ⟨c, (b.run now c s).reply⟩ :: b.replies (b.run now c s).state rest

/-- Sections that could be read from a document of finite numbers and are not too deep to be
written. -/
structure Storable (sections : List Section) : Prop extends Documented sections where
  finite : ∀ e ∈ keptIn sections, e.2.isFinite = true
  levels : ∀ e ∈ keptIn sections, e.2.levels ≤ Value.maxDepth

namespace Storable

variable {sections : List Section}

theorem plain (h : Storable sections) : sections.map Section.plain = sections :=
  plain_of_keptIn fun e he => Value.plain_of_document e.2 (h.kept e he) (h.finite e he)

theorem obstacle? (h : Storable sections) : sectionsObstacle? Value.maxDepth sections = none := by
  rw [sectionsObstacle?_eq, Value.fieldsObstacle?_of_documents h.kept, if_pos h.levels]

end Storable

namespace Call

def Storable : Call → Prop
  | .create _ _ draft => ∀ d ∈ draft, IntakeForms.Storable d.sections
  | .saveDraft _ draft => IntakeForms.Storable draft.sections
  | .publish _ snapshot => IntakeForms.Storable snapshot.sections ∧ snapshot.publishedAt.Valid
  | _ => True

def creates : Call → Bool
  | .create .. => true
  | _ => false

/-- A limit is at least one. -/
def Limited : Call → Prop
  | .submissions _ limit => 1 ≤ limit
  | _ => True

variable {c : Call}

theorem Storable.genuine (h : c.Storable) : c.Genuine := by
  cases c with
  | create title workspace draft => exact fun d hd => (h d hd).genuine
  | saveDraft id draft => exact h.genuine
  | publish id snapshot => exact ⟨h.1.genuine, h.2⟩
  | _ => trivial

theorem Storable.obstacle? (h : c.Storable) : c.obstacle? = none := by
  cases c with
  | create title workspace draft =>
    cases draft with
    | none => rfl
    | some d => exact (h d rfl).obstacle?
  | saveDraft id draft => exact IntakeForms.Storable.obstacle? h
  | publish id snapshot => exact h.1.obstacle?
  | _ => rfl

end Call

namespace Memory

variable {m : Memory} {now : Timestamp} {c : Call}

/-- No call draws anything that is in use. -/
def DrawsAll : Memory → Calls → Prop
  | _, [] => True
  | m, (now, c) :: rest => m.Draws c ∧ DrawsAll (m.run now c).2 rest

instance decidableDrawsAll : (m : Memory) → (calls : Calls) → Decidable (m.DrawsAll calls)
  | _, [] => .isTrue trivial
  | m, (now, c) :: rest =>
    have := decidableDrawsAll (m.run now c).2 rest
    inferInstanceAs (Decidable (m.Draws c ∧ (m.run now c).2.DrawsAll rest))

/-- A store whose records are as they would be read after being written. -/
def Plain (m : Memory) : Prop := ∀ r ∈ m.all, r.plain = r

theorem Plain.run (h : m.Plain) (now : Timestamp) (hc : c.Storable) : (m.run now c).2.Plain := by
  refine forall_run h ?_ ?_ ?_
  · rintro title workspace draft id slug rfl
    have hdraft : (draft.getD (Draft.titled title)).plain = draft.getD (Draft.titled title) := by
      cases draft with
      | none => rfl
      | some d => rw [Option.getD_some, Draft.plain, (hc d rfl).plain]
    simp [Store.freshRecord, Record.plain, hdraft]
  · rintro id draft r rfl hr
    have hdraft : draft.plain = draft := by rw [Draft.plain, IntakeForms.Storable.plain hc]
    simp [Record.plain, hdraft, (Record.mk.inj hr).2.2.2.2.2.1]
  · rintro id snapshot r rfl hr
    have hsnapshot : snapshot.plain = snapshot := by rw [Snapshot.plain, hc.1.plain]
    simp [Record.plain, hsnapshot, (Record.mk.inj hr).2.2.2.2.1]

theorem length_records_run (h : m.Sound) (now : Timestamp) (c : Call) :
    (m.run now c).2.records.length ≤ m.records.length + if c.creates then 1 else 0 := by
  have hput {id : String} {r q : Record} (hr : m.record? id = some r) :
      (Entries.put r.id q m.records).length ≤ m.records.length := by
    rw [h.keyed hr]
    exact (Entries.length_put_of_get? hr q).le
  cases rewrite_run now c m with
  | kept _ hn =>
    rw [hn]
    exact Nat.le_add_right ..
  | created _ _ _ hn =>
    rw [hn]
    exact Entries.length_put_le ..
  | drafted hr hn =>
    rw [hn]
    exact hput hr
  | published hr hn =>
    rw [hn]
    exact hput hr

theorem Plain.map_all (h : m.Plain) {records : List Record} (hall : ∀ r ∈ records, r ∈ m.all) :
    records.map Record.plain = records :=
  (List.map_congr_left fun r hr => h r (hall r hr)).trans (List.map_id' records)

theorem Plain.map_option (h : m.Plain) {found : Option Record} (hall : ∀ r ∈ found, r ∈ m.all) :
    found.map Record.plain = found := by
  cases found with
  | none => rfl
  | some r => rw [Option.map_some, h r (hall r rfl)]

theorem written_run (hplain : m.Plain) (hc : c.Storable) :
    (m.run now c).1.map c.written = (m.run now c).1 := by
  have hnext := hplain.run now hc
  cases c with
  | create title workspace draft => rfl
  | get id =>
    exact congrArg Except.ok (hplain.map_option fun r hr => mem_all_of_record? hr)
  | bySlug slug =>
    exact congrArg Except.ok (hplain.map_option fun r hr => List.mem_of_find?_eq_some hr)
  | list workspace => rfl
  | saveDraft id draft =>
    cases hr : m.record? id with
    | none => simp [Memory.run, hr, Except.map]
    | some r =>
      simp only [Memory.run, hr] at hnext ⊢
      exact congrArg Except.ok (hnext _ (mem_all_of_record? (record?_store ..)))
  | publish id snapshot =>
    cases hr : m.record? id with
    | none => simp [Memory.run, hr, Except.map]
    | some r =>
      simp only [Memory.run, hr] at hnext ⊢
      exact congrArg Except.ok (hnext _ (mem_all_of_record? (record?_store ..)))
  | addSubmission id answers trail =>
    cases hr : m.record? id <;> simp [Memory.run, hr, Except.map, Call.written]
  | submissions id limit =>
    cases hr : m.record? id <;> simp [Memory.run, hr, Except.map, Call.written]

end Memory

namespace Documents.Holds

variable {d : Documents} {m : Memory} {c : Call}

theorem lists_eq (h : d.Holds m) (hm : m.Orderly) (hplain : m.Plain) (hdistinct : m.Distinct)
    (q : Queries) (now : Timestamp) (hlists : c.lists = true) (hlimited : c.Limited)
    (hlength : m.records.length ≤ maxListed) : (d.run q now c).reply = (m.run now c).1 := by
  cases c with
  | list workspace =>
    obtain ⟨sorted, hsorted, hlist⟩ := h.list_eq hm q now workspace
    have hmem : ∀ r ∈ sorted, r ∈ m.all := fun r hr => (List.mem_filter.1 (hsorted.mem_iff.1 hr)).1
    have hfew : sorted.length ≤ maxListed := by
      rw [hsorted.perm.length_eq]
      refine (List.length_filter_le ..).trans ?_
      rwa [Memory.all, List.length_map]
    have hlatest := hsorted.eq_latestFirst fun r hr q hq =>
      hdistinct.updated r (List.mem_filter.1 hr).1 q (List.mem_filter.1 hq).1
    change d.list q workspace now = _
    rw [hlist, List.take_of_length_le hfew, hplain.map_all hmem, hlatest]
    rfl
  | submissions id limit =>
    cases hr : m.record? id with
    | none => simp only [Documents.run, h.require_eq hm.sound, Memory.run, hr]
    | some r =>
      obtain ⟨sorted, hsorted, hlist⟩ := h.submissionsOf_eq hm q id hlimited
      have hupTo (stored : List Submission) : Store.upTo limit stored = stored.take limit.toNat :=
        if_pos (Int.le_trans (by decide) hlimited)
      simp only [Documents.run, h.require_eq hm.sound, Memory.run, hr, hlist, hupTo]
      rw [hsorted.eq_latestFirst (hdistinct.received id)]
  | _ => cases hlists

theorem reply_eq (h : d.Holds m) (hm : m.Orderly) (hplain : m.Plain) (hdistinct : m.Distinct)
    (q : Queries) (now : Timestamp) (hstorable : c.Storable) (hlimited : c.Limited)
    (hdraws : m.Draws c) (hlength : m.records.length ≤ maxListed) :
    (d.run q now c).reply = (m.run now c).1 := by
  cases hlists : c.lists with
  | true => exact h.lists_eq hm hplain hdistinct q now hlists hlimited hlength
  | false =>
    obtain ⟨-, hreply⟩ := h.run hm q now hstorable.genuine hdraws hstorable.obstacle?
    exact (hreply hlists).trans (Memory.written_run hplain hstorable)

end Documents.Holds

theorem replies_eq (q : Queries) {d : Documents} {m : Memory} (h : d.Holds m) (hm : m.Orderly)
    (hplain : m.Plain) (hdistinct : m.Distinct) {calls : Calls}
    (hbefore : ∀ e ∈ calls, m.Before e.1) (hzoned : ∀ e ∈ calls, e.1.offset.isSome = true)
    (hclock : calls.Pairwise fun e f => e.1.instant < f.1.instant)
    (hstorable : ∀ e ∈ calls, e.2.Storable) (hlimited : ∀ e ∈ calls, e.2.Limited)
    (hcreates : m.records.length + calls.countP (·.2.creates) ≤ Documents.maxListed)
    (hdraws : m.DrawsAll calls) :
    (Documents.backend q).replies d calls = Memory.backend.replies m calls := by
  -- the documents go on holding what is in memory, and nothing there is ever of one moment
  induction calls generalizing d m with
  | nil => rfl
  | cons e rest ih =>
    obtain ⟨now, c⟩ := e
    rw [List.forall_mem_cons] at hbefore hzoned hstorable hlimited
    obtain ⟨hlater, hclock⟩ := List.pairwise_cons.1 hclock
    obtain ⟨hc, hrest⟩ := hdraws
    have hlength : m.records.length ≤ Documents.maxListed := (Nat.le_add_right ..).trans hcreates
    have hreply := h.reply_eq hm hplain hdistinct q now hstorable.1 hlimited.1 hc hlength
    obtain ⟨hnext, -⟩ := h.run hm q now hstorable.1.genuine hc hstorable.1.obstacle?
    have hgrown := Memory.length_records_run hm.sound now c
    have hcount : (m.run now c).2.records.length + rest.countP (·.2.creates) ≤
        Documents.maxListed := by
      rw [List.countP_cons] at hcreates
      split at hcreates <;> simp_all <;> omega
    have htail := ih hnext (hm.run hzoned.1 hc) (hplain.run now hstorable.1)
      (hdistinct.run hbefore.1 c) (fun e he => hbefore.1.run c (hlater e he)) hzoned.2 hclock
      hstorable.2 hlimited.2 hcount hrest
    exact congrArg₂ List.cons (congrArg (Sigma.mk c) hreply) htail

/-- The two stores answer alike, whatever the queries of the one answer beyond what is known of
them: every call comes later than the one before it, limits are at least one, and there are no more
forms than are listed. -/
theorem stores_agree (q : Queries) {ids : Ids} {calls : Calls}
    (hzoned : ∀ e ∈ calls, e.1.offset.isSome = true)
    (hclock : calls.Pairwise fun e f => e.1.instant < f.1.instant)
    (hstorable : ∀ e ∈ calls, e.2.Storable) (hlimited : ∀ e ∈ calls, e.2.Limited)
    (hcreates : calls.countP (·.2.creates) ≤ Documents.maxListed)
    (hdraws : Memory.DrawsAll { ids := ids } calls) :
    (Documents.backend q).replies { ids := ids } calls =
      Memory.backend.replies { ids := ids } calls := by
  have hholds : Documents.Holds { ids := ids } { ids := ids } :=
    ⟨rfl, rfl, fun _ => rfl, by simp [Memory.all]⟩
  refine replies_eq q hholds (.empty rfl rfl) (by simp [Memory.Plain, Memory.all]) (.empty rfl rfl)
    (fun e _ => .empty rfl rfl e.1) hzoned hclock hstorable hlimited ?_ hdraws
  simpa using hcreates

def minute (n : Nat) : Timestamp := ⟨2024, 5, 1, 9, n, 0, 0, some 0⟩

theorem storable_noteSections {body : Value} (hdocument : body.isDocument = true)
    (hfinite : body.isFinite = true) (hlevels : body.levels ≤ Value.maxDepth) :
    Storable (noteSections body) where
  toDocumented :=
    Draft.shape_documented _ (isDocument_noteDraft hdocument) _ (shape_noteDraft body)
  finite := by simpa [noteSections, keptIn, Block.kept] using hfinite
  levels := by simpa [noteSections, keptIn, Block.kept] using hlevels

def noteCalls : Calls :=
  [(minute 0, .create "Notes" "home" none),
    (minute 1, .saveDraft "intake_1" ⟨{}, noteSections (.int 4)⟩),
    (minute 2, .publish "intake_1" ⟨"notes-2", {}, noteSections (.int 4), minute 2⟩),
    (minute 3, .addSubmission "intake_1" [("name", .text "Ada")] {}),
    (minute 4, .bySlug "notes-2"), (minute 5, .list none), (minute 6, .submissions "intake_1" 5),
    (minute 7, .get "intake_2")]

theorem stores_agree_notes :
    (Documents.backend .ordered).replies { ids := ⟨toString, 0⟩ } noteCalls =
      Memory.backend.replies { ids := ⟨toString, 0⟩ } noteCalls := by
  have hnote : Storable (noteSections (.int 4)) :=
    storable_noteSections rfl rfl (by decide)
  have hat : (minute 2).Valid := by
    constructor <;> decide
  refine stores_agree .ordered (by decide) (by decide) ?_ ?_ (by decide) (by decide +kernel)
  · simp [noteCalls, Call.Storable, hnote, hat]
  · simp [noteCalls, Call.Limited]

def savedNote (body : Value) : Calls :=
  [(minute 0, .create "Notes" "home" none),
    (minute 1, .saveDraft "intake_1" ⟨{}, noteSections body⟩)]

theorem replies_savedNote {body : Value} (h : body.isDocument = true)
    (hdeep : Value.maxDepth < body.levels) :
    (Documents.backend .ordered).replies { ids := ⟨toString, 0⟩ } (savedNote body) ≠
      Memory.backend.replies { ids := ⟨toString, 0⟩ } (savedNote body) := by
  intro heq
  have hobstacle : (Call.saveDraft "intake_1" ⟨{}, noteSections body⟩).obstacle? = some .tooDeep :=
    obstacle?_noteSections h hdeep
  have hrefused (d : Documents) : ((Documents.backend .ordered).run (minute 1)
      (.saveDraft "intake_1" ⟨{}, noteSections body⟩) d).reply = .error (.unwritable .tooDeep) :=
    congrArg Outcome.reply (Documents.run_obstructed hobstacle (fun _ _ _ => nofun) .ordered _ d)
  have hsaved := (List.cons.inj (List.cons.inj heq).2).1
  have hreply := (hrefused _).symm.trans (eq_of_heq (Sigma.mk.inj hsaved).2)
  have hfound :
      (Memory.create "Notes" "home" none (minute 0) { ids := ⟨toString, 0⟩ }).2.record? "intake_1" =
        some (Memory.create "Notes" "home" none (minute 0) { ids := ⟨toString, 0⟩ }).1 := by
    decide +kernel
  simp [Memory.backend, Memory.run, hfound] at hreply

theorem deep_note_parts_stores :
    Draft.shape (noteDraft (nested 300)) = .ok ⟨{}, noteSections (nested 300)⟩ ∧
      (noteDraft (nested 300)).isDocument = true ∧ (noteDraft (nested 300)).isFinite = true ∧
      (savedNote (nested 300)).Pairwise (fun e f => e.1.instant < f.1.instant) ∧
      (savedNote (nested 300)).countP (·.2.creates) ≤ Documents.maxListed ∧
      Memory.DrawsAll { ids := ⟨toString, 0⟩ } (savedNote (nested 300)) ∧
      (Documents.backend .ordered).replies { ids := ⟨toString, 0⟩ } (savedNote (nested 300)) ≠
        Memory.backend.replies { ids := ⟨toString, 0⟩ } (savedNote (nested 300)) := by
  have hdeep : Value.maxDepth < (nested 300).levels := by
    rw [levels_nested]
    decide
  exact ⟨shape_noteDraft _, isDocument_noteDraft (isDocument_nested 300),
    isFinite_noteDraft (isFinite_nested 300), List.pairwise_pair.2 (by decide),
    by simp [savedNote, Call.creates, Documents.maxListed], by decide +kernel,
    replies_savedNote (isDocument_nested 300) hdeep⟩

end IntakeForms
