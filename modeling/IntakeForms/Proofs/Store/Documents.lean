import IntakeForms.Proofs.Document.Forms
import IntakeForms.Proofs.Store.Queries
import IntakeForms.Proofs.Store.Submissions

/-! A store of documents beside one in memory.  The documents hold what the other store has if
each is the document of a record; then they answer a call as the other store does, with records
in their written form, and still hold what it has afterwards.  Lists hold the same as those of the
other store, as far as their order and a limit below one leave it open.  Only a call that hands in
what cannot be written is refused, and leaves the documents as they are. -/

namespace IntakeForms

namespace Call

/-- The drafts and snapshots that are handed in could be read from documents. -/
def Genuine : Call → Prop
  | .create _ _ draft => ∀ d ∈ draft, d.Genuine
  | .saveDraft _ draft => draft.Genuine
  | .publish _ snapshot => snapshot.Genuine
  | _ => True

/-- What keeps the draft or snapshot that is handed in from being written. -/
def obstacle? : Call → Option Obstacle
  | .create _ _ draft => draft.bind fun d => sectionsObstacle? Value.maxDepth d.sections
  | .saveDraft _ draft => sectionsObstacle? Value.maxDepth draft.sections
  | .publish _ snapshot => sectionsObstacle? Value.maxDepth snapshot.sections
  | _ => none

def lists : Call → Bool
  | .list _ | .submissions .. => true
  | _ => false

/-- The reply with its record in its written form.  A new record is not read again. -/
def written : (c : Call) → c.Reply → c.Reply
  | .get _, found => found.map Record.plain
  | .bySlug _, found => found.map Record.plain
  | .saveDraft .., r => r.plain
  | .publish .., r => r.plain
  | .create .., r | .list _, r | .addSubmission .., r | .submissions .., r => r

end Call

theorem Memory.genuine_run {m : Memory} (h : ∀ r ∈ m.all, r.Genuine) (now : Timestamp) {c : Call}
    (hc : c.Genuine) : ∀ r ∈ (m.run now c).2.all, r.Genuine := by
  refine forall_run h ?_ ?_ ?_
  · rintro title workspace draft id slug rfl
    refine ⟨?_, by simp [Store.freshRecord]⟩
    cases draft with
    | none => simp [Store.freshRecord, Draft.titled, Draft.Genuine]
    | some d => exact hc d rfl
  · rintro id draft r rfl hr
    exact ⟨hc, hr.published⟩
  · rintro id snapshot r rfl hr
    refine ⟨hr.draft, fun s hs => ?_⟩
    obtain rfl : snapshot = s := Option.some.inj hs
    exact hc

namespace Documents

/-- The document of a record. -/
def document (r : Record) : Document :=
  [("workspace_id", .text r.workspace), ("title", .text r.title), ("slug", .text r.slug),
    ("draft", r.draft.write), ("published", .optional Snapshot.write r.published),
    ("created_at", .moment r.createdAt), ("updated_at", .moment r.updatedAt)]

theorem toRecord_document {r : Record} (h : r.Genuine) (now : Timestamp) :
    toRecord now r.id (document r) = .ok r.plain := by
  have hdraft : orEmpty "draft" (document r) = r.draft.write := by
    simp [orEmpty, document, Entries.get?, Draft.write, Value.object, Value.truthy]
  have hpublished : readPublished now (document r) = .ok (r.published.map Snapshot.plain) := by
    have hget : Entries.get? "published" (document r) =
        some (.optional Snapshot.write r.published) := by simp [document, Entries.get?]
    rw [readPublished, hget, Option.getD_some]
    cases hs : r.published with
    | none => rfl
    | some s =>
      have htruthy : (Snapshot.write s).truthy = true := by
        simp [Snapshot.write, Value.object, Value.truthy]
      rw [Value.optional, if_pos htruthy, Snapshot.shape_write (h.published s hs)]
      rfl
  rw [toRecord, hdraft, hpublished, Draft.shape_write h.draft]
  rfl

theorem toSubmission_ofSubmission (s : Submission) :
    toSubmission s.intakeId s.id (ofSubmission s) = .ok s := by
  have htrail : orEmpty "metadata" (ofSubmission s) = s.trail.write := by
    simp [orEmpty, ofSubmission, Entries.get?, Trail.write, Value.object, Value.truthy]
  have hanswers : Shape.mapping (.object s.answers) = .ok s.answers := by
    rw [Value.object, Shape.mapping]
    induction s.answers with
    | nil => rfl
    | cons e rest ih => simp [Shape.mappingFrom, ih]
  rw [toSubmission, htrail, Trail.shape_write]
  simp [readable, field, ofSubmission, Entries.get?, hanswers, Shape.moment, bind, Except.bind]

theorem mapM_map {α β γ : Type} {items : List α} {f : α → β} {read : β → Except Failure γ}
    {g : α → γ} (h : ∀ a ∈ items, read (f a) = .ok (g a)) :
    (items.map f).mapM read = .ok (items.map g) := by
  induction items with
  | nil => rfl
  | cons a rest ih =>
    rw [List.forall_mem_cons] at h
    rw [List.map_cons, List.mapM_cons, h.1, ih h.2]
    rfl

/-- The documents are those of the records, and the submissions those of each record. -/
structure Holds (d : Documents) (m : Memory) : Prop where
  ids : d.ids = m.ids
  intakes : d.intakes = m.records.map fun e => (e.1, document e.2)
  submissions : ∀ id,
    d.collection id = (m.submissionsOf id).map fun s => (s.id, ofSubmission s)
  genuine : ∀ r ∈ m.all, r.Genuine

namespace Holds

variable {d : Documents} {m : Memory} {r : Record} {id : String}

theorem intakes_all (h : Holds d m) (hm : m.Sound) :
    d.intakes = m.all.map fun r => (r.id, document r) := by
  rw [h.intakes, Memory.all, List.map_map]
  refine List.map_congr_left fun e he => ?_
  rw [Function.comp, hm.keyed (Entries.get?_of_mem hm.nodup he)]

theorem get?_intakes (h : Holds d m) (id : String) :
    Entries.get? id d.intakes = (m.record? id).map document := by
  rw [h.intakes, Entries.get?_map, Memory.record?]

theorem toRecord_of (h : Holds d m) (hm : m.Sound) (hr : m.record? id = some r) (now : Timestamp) :
    toRecord now id (document r) = .ok r.plain := by
  rw [← hm.keyed hr]
  exact toRecord_document (h.genuine r (Memory.mem_all_of_record? hr)) now

theorem record?_eq (h : Holds d m) (hm : m.Sound) (now : Timestamp) (id : String) :
    d.record? now id = .ok ((m.record? id).map Record.plain) := by
  rw [record?, h.get?_intakes]
  cases hr : m.record? id with
  | none => rfl
  | some r =>
    simp only [Option.map_some, h.toRecord_of hm hr]
    rfl

theorem require_eq (h : Holds d m) (hm : m.Sound) (now : Timestamp) (id : String) :
    d.require now id = match m.record? id with
      | some r => .ok r.plain
      | none => .error (.notFound id) := by
  rw [require, h.get?_intakes]
  cases hr : m.record? id with
  | none => rfl
  | some r => exact h.toRecord_of hm hr now

theorem mapM_collection (h : Holds d m) (howned : ∀ s ∈ m.submissionsOf id, s.intakeId = id) :
    (d.collection id).mapM (fun e => toSubmission id e.1 e.2) = .ok (m.submissionsOf id) := by
  have hread : ∀ s ∈ m.submissionsOf id, toSubmission id s.id (ofSubmission s) = .ok s := by
    intro s hs
    rw [← howned s hs]
    exact toSubmission_ofSubmission s
  rw [h.submissions, mapM_map hread, List.map_id']

theorem update (h : Holds d m) (hm : m.Sound) (hr : m.record? id = some r) {changed : Record}
    {name : String} {v : Value} {now : Timestamp}
    (hdocument : Entries.putAll (document r) [(name, v), ("updated_at", .moment now)] =
      document changed)
    (hid : changed.id = r.id) (hslug : changed.slug = r.slug) (hgenuine : changed.Genuine) :
    ∃ next, Documents.update id name (.ok v) now d = .ok next ∧
      Holds next (m.store changed) ∧ next.require now id = .ok changed.plain := by
  have hnext : Holds { d with intakes := Entries.put id (document changed) d.intakes }
      (m.store changed) := by
    refine ⟨h.ids, ?_, h.submissions, Memory.forall_put h.genuine hgenuine⟩
    rw [Memory.store, hid, hm.keyed hr, ← Entries.put_map, ← h.intakes]
  refine ⟨_, ?_, hnext, ?_⟩
  · rw [← hdocument, Documents.update, h.get?_intakes, hr]
    rfl
  · rw [hnext.require_eq (hm.replace hr changed hid hslug rfl),
      ← hid.trans (hm.keyed hr), Memory.record?_store]

theorem update_absent (h : Holds d m) (hr : m.record? id = none) (name : String) (v : Value)
    (now : Timestamp) : Documents.update id name (.ok v) now d = .error (.notFound id) := by
  rw [Documents.update, h.get?_intakes, hr]
  rfl

end Holds

theorem ofRecord_freshRecord {title workspace id slug : String} {draft : Option Draft}
    {now : Timestamp} (h : (Call.create title workspace draft).obstacle? = none) :
    ofRecord (Store.freshRecord title workspace draft id slug now) =
      .ok (document (Store.freshRecord title workspace draft id slug now)) := by
  have hdraft : (draft.getD (Draft.titled title)).write? =
      .ok (draft.getD (Draft.titled title)).write := by
    cases draft with
    | none => rfl
    | some d =>
      have hd : sectionsObstacle? Value.maxDepth d.sections = none := h
      rw [Option.getD_some, Draft.write?, hd]
      rfl
  simp only [ofRecord, Store.freshRecord, hdraft]
  rfl

theorem list_documents (q : Queries) {d : Documents} {records : List Record}
    (hintakes : d.intakes = records.map fun r => (r.id, document r))
    (hrecords : ∀ r ∈ records, r.Genuine ∧ r.updatedAt.offset.isSome = true) (now : Timestamp)
    (workspace : Option String) :
    ∃ sorted, Store.IsLatestFirst Record.updatedAt
        (records.filter (Memory.inWorkspace workspace)) sorted ∧
      d.list q workspace now = .ok ((sorted.take maxListed).map Record.plain) := by
  have hown : listed q workspace d.intakes = (q.latestBy "updated_at"
      ((records.filter (Memory.inWorkspace workspace)).map fun r => (r.id, document r))).map
        (q.cut maxListed) := by
    rw [hintakes]
    cases workspace with
    | none =>
      have hall : records.filter (Memory.inWorkspace none) = records :=
        List.filter_eq_self.2 fun _ _ => rfl
      rw [hall]
      rfl
    | some w =>
      have hfilter : (records.map fun r => (r.id, document r)).filter (fun e =>
          Collection.fieldIs "workspace_id" w e.2) =
          (records.filter (Memory.inWorkspace (some w))).map fun r => (r.id, document r) := by
        rw [List.filter_map]
        refine congrArg (List.map _) (congrArg (List.filter · records) (funext fun r => ?_))
        simp [Collection.fieldIs, document, Entries.get?, Memory.inWorkspace]
      rw [← hfilter]
      rfl
  have hget (r : Record) :
      Entries.get? "updated_at" (document r) = some (.moment r.updatedAt) := by
    simp [document, Entries.get?]
  obtain ⟨sorted, hsorted, hlatest⟩ := q.latestBy_map
    (records.filter (Memory.inWorkspace workspace)) (fun r => (r.id, document r)) hget
    fun r hr => (hrecords r (List.mem_filter.1 hr).1).2
  have hread : ∀ r ∈ sorted.take maxListed, toRecord now r.id (document r) = .ok r.plain := by
    intro r hr
    have hmem := hsorted.mem_iff.1 (List.mem_of_mem_take hr)
    exact toRecord_document (hrecords r (List.mem_filter.1 hmem).1).1 now
  refine ⟨sorted, hsorted, ?_⟩
  rw [list, hown, hlatest, Except.map, q.cut_take maxListed _ (by decide), ← List.map_take]
  exact mapM_map hread

namespace Holds

variable {d : Documents} {m : Memory} {q : Queries}

theorem run_create (h : Holds d m) (hm : m.Orderly) {now : Timestamp} {title workspace : String}
    {draft : Option Draft} (hgenuine : ∀ d ∈ draft, d.Genuine) (hfresh : m.Fresh title)
    (hobstacle : (Call.create title workspace draft).obstacle? = none) :
    Holds (d.create title workspace draft now).2.1 (m.create title workspace draft now).2 ∧
      (d.create title workspace draft now).1 = .ok (m.create title workspace draft now).1 := by
  have habsent := hfresh.absent hm.sound
  rw [create, h.ids]
  simp only [ofRecord_freshRecord hobstacle]
  refine ⟨⟨rfl, ?_, fun id => ?_, ?_⟩, rfl⟩
  · simp only [Memory.create, h.intakes, ← Entries.put_map]
  · rw [Memory.submissionsOf_put (m := m) rfl]
    change d.collection id = _
    rw [h.submissions]
    split
    · next hid =>
      rw [← hid]
      exact congrArg (List.map _) (hm.submissionsOf_absent habsent)
    · rfl
  · exact Memory.genuine_run (c := .create title workspace draft) h.genuine now hgenuine

theorem run_saveDraft (h : Holds d m) (hm : m.Sound) {now : Timestamp} {id : String}
    {draft : Draft} (hgenuine : draft.Genuine) (hwrite : draft.write? = .ok draft.write) :
    Holds (d.run q now (.saveDraft id draft)).state (m.run now (.saveDraft id draft)).2 ∧
      (d.run q now (.saveDraft id draft)).reply =
        (m.run now (.saveDraft id draft)).1.map Record.plain := by
  cases hr : m.record? id with
  | none =>
    simp only [run, saveDraft, hwrite, h.update_absent hr, Memory.run, hr]
    exact ⟨h, rfl⟩
  | some r =>
    have hdocument : Entries.putAll (document r) [("draft", draft.write),
        ("updated_at", .moment now)] = document { r with draft := draft, updatedAt := now } := rfl
    obtain ⟨next, hupdate, hnext, hread⟩ := h.update hm hr hdocument rfl rfl
      ⟨hgenuine, (h.genuine r (Memory.mem_all_of_record? hr)).published⟩
    simp only [run, saveDraft, hwrite, hupdate, hread, Memory.run, hr]
    exact ⟨hnext, rfl⟩

theorem run_publish (h : Holds d m) (hm : m.Sound) {now : Timestamp} {id : String}
    {snapshot : Snapshot} (hgenuine : snapshot.Genuine)
    (hwrite : snapshot.write? = .ok snapshot.write) :
    Holds (d.run q now (.publish id snapshot)).state (m.run now (.publish id snapshot)).2 ∧
      (d.run q now (.publish id snapshot)).reply =
        (m.run now (.publish id snapshot)).1.map Record.plain := by
  cases hr : m.record? id with
  | none =>
    simp only [run, publish, hwrite, h.update_absent hr, Memory.run, hr]
    exact ⟨h, rfl⟩
  | some r =>
    have hdocument : Entries.putAll (document r) [("published", snapshot.write),
        ("updated_at", .moment now)] =
          document { r with published := some snapshot, updatedAt := now } := rfl
    obtain ⟨next, hupdate, hnext, hread⟩ := h.update hm hr hdocument rfl rfl
      ⟨(h.genuine r (Memory.mem_all_of_record? hr)).draft, by simpa using hgenuine⟩
    simp only [run, publish, hwrite, hupdate, hread, Memory.run, hr]
    exact ⟨hnext, rfl⟩

theorem run_addSubmission (h : Holds d m) (hm : m.Sound) (now : Timestamp) {id : String}
    (answers : Answer.Answers) (trail : Trail)
    (hdraws : ∀ s ∈ m.submissionsOf id, s.id ≠ (Ids.newId "sub" m.ids).1) :
    Holds (d.run q now (.addSubmission id answers trail)).state
        (m.run now (.addSubmission id answers trail)).2 ∧
      (d.run q now (.addSubmission id answers trail)).reply =
        (m.run now (.addSubmission id answers trail)).1 := by
  cases hr : m.record? id with
  | none =>
    simp only [run, addSubmission, h.require_eq hm, Memory.run, hr]
    exact ⟨h, trivial⟩
  | some r =>
    simp only [run, addSubmission, h.require_eq hm, Memory.run, hr, h.ids]
    refine ⟨⟨rfl, h.intakes, fun j => ?_, h.genuine⟩, rfl⟩
    rw [Memory.submissionsOf_put (m := m) rfl, collection, putSubmission, Entries.get?_put]
    split
    · have hnew : (Ids.newId "sub" m.ids).1 ∉ Entries.keys (d.collection id) := by
        rw [h.submissions, Entries.keys, List.map_map, List.mem_map]
        rintro ⟨s, hs, heq⟩
        exact hdraws s hs heq
      change Entries.put _ _ (d.collection id) = _
      rw [Entries.put_of_not_mem hnew, h.submissions, List.map_append]
      rfl
    · exact h.submissions j

theorem run_bySlug (h : Holds d m) (hm : m.Sound) (q : Queries) (now : Timestamp) (slug : String) :
    d.run q now (.bySlug slug) = ⟨.ok ((m.all.find? (·.slug = slug)).map Record.plain), d, []⟩ := by
  have hfield (r : Record) : Collection.fieldIs "slug" slug (document r) = decide (r.slug = slug) := by
    simp [Collection.fieldIs, document, Entries.get?]
  have hintakes := h.intakes_all hm
  rw [run]
  cases hfind : q.find? "slug" slug d.intakes with
  | none =>
    have hnone : m.all.find? (·.slug = slug) = none := by
      refine List.find?_eq_none.2 fun r hr => ?_
      have hfalse := Queries.fieldIs_of_find?_eq_none hfind (r.id, document r)
        (hintakes ▸ List.mem_map_of_mem hr)
      rw [hfield] at hfalse
      simpa using hfalse
    rw [hnone]
    rfl
  | some e =>
    obtain ⟨hmem, hslug⟩ := Queries.mem_of_find? hfind
    rw [hintakes] at hmem
    obtain ⟨r, hr, rfl⟩ := List.mem_map.1 hmem
    rw [hfield, decide_eq_true_iff] at hslug
    subst hslug
    rw [hm.find_slug hr]
    simp only [toRecord_document (h.genuine r hr) now]
    rfl

theorem list_eq (h : Holds d m) (hm : m.Orderly) (q : Queries) (now : Timestamp)
    (workspace : Option String) :
    ∃ sorted, Store.IsLatestFirst Record.updatedAt (m.all.filter (Memory.inWorkspace workspace))
        sorted ∧ d.list q workspace now = .ok ((sorted.take maxListed).map Record.plain) := by
  refine list_documents q (h.intakes_all hm.sound) (fun r hr => ⟨h.genuine r hr, ?_⟩) now workspace
  exact hm.updated (hm.sound.mem_all_iff.1 hr)

theorem submissionsOf_eq (h : Holds d m) (hm : m.Orderly) (q : Queries) (id : String)
    {limit : Int} (hlimit : 1 ≤ limit) :
    ∃ sorted, Store.IsLatestFirst Submission.createdAt (m.submissionsOf id) sorted ∧
      d.submissionsOf q id limit = .ok (sorted.take limit.toNat) := by
  have hget (s : Submission) :
      Entries.get? "created_at" (ofSubmission s) = some (.moment s.createdAt) := by
    simp [ofSubmission, Entries.get?]
  obtain ⟨sorted, hsorted, hlatest⟩ := q.latestBy_map (m.submissionsOf id)
    (fun s => (s.id, ofSubmission s)) hget fun s hs => hm.received hs
  have hread : ∀ s ∈ sorted.take limit.toNat, toSubmission id s.id (ofSubmission s) = .ok s := by
    intro s hs
    have howned := hm.owned (hsorted.mem_iff.1 (List.mem_of_mem_take hs))
    rw [← howned.1]
    exact toSubmission_ofSubmission s
  refine ⟨sorted, hsorted, ?_⟩
  rw [submissionsOf, h.submissions, hlatest]
  change (q.cut limit (List.map _ _)).mapM _ = _
  rw [q.cut_of_pos hlimit, ← List.map_take, mapM_map hread, List.map_id']

/-- A call that hands in nothing that cannot be written does what it does to the records, and is
answered as by the records unless the answer is a list. -/
theorem run (h : Holds d m) (hm : m.Orderly) (q : Queries) (now : Timestamp) {c : Call}
    (hgenuine : c.Genuine) (hdraws : m.Draws c) (hobstacle : c.obstacle? = none) :
    Holds (d.run q now c).state (m.run now c).2 ∧
      (c.lists = false → (d.run q now c).reply = (m.run now c).1.map c.written) := by
  cases c with
  | create title workspace draft =>
    obtain ⟨hnext, hreply⟩ := h.run_create hm hgenuine hdraws hobstacle
    exact ⟨hnext, fun _ => hreply⟩
  | get id => exact ⟨h, fun _ => h.record?_eq hm.sound now id⟩
  | bySlug slug =>
    rw [h.run_bySlug hm.sound]
    exact ⟨h, fun _ => rfl⟩
  | list workspace => exact ⟨h, fun hlists => absurd hlists (by simp [Call.lists])⟩
  | saveDraft id draft =>
    have hwrite : draft.write? = .ok draft.write := by
      rw [Draft.write?, show sectionsObstacle? _ draft.sections = none from hobstacle]
      rfl
    obtain ⟨hnext, hreply⟩ := h.run_saveDraft hm.sound hgenuine hwrite
    exact ⟨hnext, fun _ => hreply⟩
  | publish id snapshot =>
    have hwrite : snapshot.write? = .ok snapshot.write := by
      rw [Snapshot.write?, show sectionsObstacle? _ snapshot.sections = none from hobstacle]
      rfl
    obtain ⟨hnext, hreply⟩ := h.run_publish hm.sound hgenuine hwrite
    exact ⟨hnext, fun _ => hreply⟩
  | addSubmission id answers trail =>
    obtain ⟨hnext, hreply⟩ := h.run_addSubmission hm.sound now answers trail hdraws
    refine ⟨hnext, fun _ => hreply.trans ?_⟩
    cases (m.run now (.addSubmission id answers trail)).1 <;> rfl
  | submissions id limit =>
    refine ⟨?_, fun hlists => absurd hlists (by simp [Call.lists])⟩
    cases hr : m.record? id with
    | none =>
      simp only [Documents.run, h.require_eq hm.sound, Memory.run, hr]
      exact h
    | some r =>
      simp only [Documents.run, h.require_eq hm.sound, Memory.run, hr]
      refine ⟨h.ids, h.intakes, fun j => ?_, h.genuine⟩
      rw [collection, touch, Entries.get?_put]
      split
      · next hid => rw [← hid, Option.getD_some, h.submissions]
      · exact h.submissions j

end Holds

theorem Holds.run_lists {d : Documents} {m : Memory} (h : Holds d m) (hm : m.Sound) (q : Queries)
    (now : Timestamp) {c : Call} (hc : c.lists = true) {e : Failure}
    (he : (m.run now c).1 = .error e) : (d.run q now c).reply = .error e := by
  cases c with
  | submissions id limit =>
    cases hr : m.record? id with
    | none =>
      simp only [Memory.run, hr] at he
      simp only [Documents.run, h.require_eq hm, hr, Except.error.inj he]
    | some r => simp [Memory.run, hr] at he
  | list workspace => cases he
  | _ => cases hc

theorem run_obstructed {c : Call} {o : Obstacle} (hc : c.obstacle? = some o)
    (hcreate : ∀ title workspace draft, c ≠ .create title workspace draft) (q : Queries)
    (now : Timestamp) (d : Documents) :
    d.run q now c = ⟨.error (.unwritable o), d, []⟩ := by
  cases c with
  | saveDraft id draft =>
    have hwrite : draft.write? = .error o := by
      rw [Draft.write?, show sectionsObstacle? _ draft.sections = some o from hc]
      rfl
    rw [Documents.run, saveDraft, hwrite]
    rfl
  | publish id snapshot =>
    have hwrite : snapshot.write? = .error o := by
      rw [Snapshot.write?, show sectionsObstacle? _ snapshot.sections = some o from hc]
      rfl
    rw [Documents.run, publish, hwrite]
    rfl
  | create title workspace draft => exact absurd rfl (hcreate title workspace draft)
  | _ => cases hc

end Documents

end IntakeForms
