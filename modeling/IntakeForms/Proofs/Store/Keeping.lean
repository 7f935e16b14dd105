import IntakeForms.Proofs.Store.Effects

/-! What either store keeps whatever it is asked, with no care taken of what is drawn or handed
in.  Every form stays under its own identifier, so that one that is found by its slug can take a
submission; and a submission that is held came with a call to add it. -/

namespace IntakeForms

namespace Call

def Brings : Call → Prop
  | .addSubmission .. => True
  | _ => False

end Call

theorem exists_eq_map {α β : Type} {f : α → β} {P : α → Prop} {items : List β}
    (h : ∀ b ∈ items, ∃ a, b = f a ∧ P a) :
    ∃ as : List α, items = as.map f ∧ ∀ a ∈ as, P a := by
  induction items with
  | nil => exact ⟨[], rfl, by simp⟩
  | cons b rest ih =>
    rw [List.forall_mem_cons] at h
    obtain ⟨⟨a, rfl, ha⟩, hrest⟩ := h
    obtain ⟨as, rfl, has⟩ := ih hrest
    exact ⟨a :: as, rfl, List.forall_mem_cons.2 ⟨ha, has⟩⟩

namespace Memory

variable {m : Memory} {now : Timestamp}

theorem submissionsOf_subset {c : Call} (hc : ¬ c.Brings) (id : String) :
    (m.run now c).2.submissionsOf id ⊆ m.submissionsOf id := by
  cases c with
  | create title workspace draft =>
    intro s hs
    change s ∈ (m.create title workspace draft now).2.submissionsOf id at hs
    rw [submissionsOf_put (m := m) (n := (m.create title workspace draft now).2) rfl] at hs
    split at hs
    · cases hs
    · exact hs
  | addSubmission id answers trail => exact absurd trivial hc
  | saveDraft id draft => cases hr : m.record? id <;> simp [run, hr, store, submissionsOf]
  | publish id snapshot => cases hr : m.record? id <;> simp [run, hr, store, submissionsOf]
  | submissions id limit => cases hr : m.record? id <;> simp [run, hr]
  | _ => exact fun _ hs => hs

/-- Every form is under its own identifier, and all submissions that are held have a property. -/
structure Files (P : Submission → Prop) (m : Memory) : Prop where
  keyed : m.Keyed
  sent : ∀ id, ∀ s ∈ m.submissionsOf id, P s

namespace Files

variable {P : Submission → Prop}

theorem run (h : m.Files P) (now : Timestamp) {c : Call} (hc : ¬ c.Brings) :
    (m.run now c).2.Files P :=
  ⟨h.keyed.run now c, fun id s hs => h.sent id s (submissionsOf_subset hc id hs)⟩

theorem receive (h : m.Files P) {slug : String} {r : Record}
    (hr : (m.run now (.bySlug slug)).1 = .ok (some r)) (answers : Answer.Answers) (trail : Trail) :
    (m.run now (.addSubmission r.id answers trail)).1 =
        .ok ⟨(Ids.newId "sub" m.ids).1, r.id, answers, trail, now⟩ ∧
      (P ⟨(Ids.newId "sub" m.ids).1, r.id, answers, trail, now⟩ →
        (m.run now (.addSubmission r.id answers trail)).2.Files P) := by
  have hfind : m.all.find? (·.slug = slug) = some r := Except.ok.inj hr
  have hrecord := h.keyed.record?_of_mem (List.mem_of_find?_eq_some hfind)
  rw [Memory.run, hrecord]
  refine ⟨rfl, fun hP => ⟨⟨h.keyed.nodup, h.keyed.keyed⟩, fun id s hs => ?_⟩⟩
  change s ∈ (m.addSubmission r.id answers trail now).2.submissionsOf id at hs
  rw [submissionsOf_put (m := m) (n := (m.addSubmission r.id answers trail now).2) rfl] at hs
  split at hs
  · rcases List.mem_append.1 hs with hs | hs
    · exact h.sent _ s hs
    · rwa [List.mem_singleton.1 hs]
  · exact h.sent id s hs

theorem publish (h : m.Files P) {id : String} {r updated : Record} {snapshot : Snapshot}
    (hr : m.record? id = some r) (hok : (m.run now (.publish id snapshot)).1 = .ok updated) :
    (m.run now (.publish id snapshot)).2.record? id = some updated ∧
      updated = { r with published := some snapshot, updatedAt := now } ∧ r.id = id := by
  have hid := h.keyed.keyed hr
  simp only [Memory.run, hr, Except.ok.injEq] at hok ⊢
  subst hok hid
  exact ⟨record?_store m _, rfl, rfl⟩

theorem add (h : m.Files P) {slug : String} {r : Record} {s : Submission}
    (hr : (m.run now (.bySlug slug)).1 = .ok (some r)) {answers : Answer.Answers} {trail : Trail}
    (hok : (m.run now (.addSubmission r.id answers trail)).1 = .ok s) :
    r.slug = slug ∧ (m.run now (.addSubmission r.id answers trail)).2.record? r.id = some r ∧
      s ∈ (m.run now (.addSubmission r.id answers trail)).2.submissionsOf r.id := by
  have hfind : m.all.find? (·.slug = slug) = some r := Except.ok.inj hr
  have hrecord := h.keyed.record?_of_mem (List.mem_of_find?_eq_some hfind)
  simp only [Memory.run, hrecord, Except.ok.injEq] at hok ⊢
  refine ⟨by simpa using List.find?_some hfind, hrecord, ?_⟩
  rw [submissionsOf_put (m := m) (n := (m.addSubmission r.id answers trail now).2) rfl,
    if_pos rfl, ← hok]
  exact List.mem_append_right _ (List.mem_singleton.2 rfl)

end Files

end Memory

namespace Documents

variable {d : Documents} {q : Queries} {now : Timestamp}

theorem ok_of_bind {α β : Type} {x : Except Failure α} {f : α → Except Failure β} {b : β}
    (h : x >>= f = .ok b) : ∃ a, x = .ok a ∧ f a = .ok b := by
  cases x with
  | error e => cases h
  | ok a => exact ⟨a, rfl, h⟩

theorem get?_of_field {name : String} {doc : Document} {v : Value} (h : field name doc = .ok v) :
    Entries.get? name doc = some v := by
  unfold field at h
  split at h
  · next hv => rw [hv, Except.ok.inj h]
  · cases h

theorem of_readable {α : Type} {P : α → Prop} {p : Parsed α} (hp : p.Gives P) {a : α}
    (h : readable p = .ok a) : P a := by
  cases p with
  | ok b => exact hp a (congrArg _ (Except.ok.inj h))
  | problems ps => cases h
  | stuck => cases h

theorem eq_of_text {v : Value} {s : String} (h : Shape.text v = .ok s) : v = .text s := by
  cases v <;> cases h
  rfl

theorem mem_of_mapM {α β : Type} {read : α → Except Failure β} {items : List α} {all : List β}
    (h : items.mapM read = .ok all) {a : α} (ha : a ∈ items) {b : β} (hb : read a = .ok b) :
    b ∈ all := by
  induction items generalizing all with
  | nil => cases ha
  | cons first rest ih =>
    rw [List.mapM_cons] at h
    obtain ⟨c, hc, h⟩ := ok_of_bind h
    obtain ⟨others, hothers, h⟩ := ok_of_bind h
    obtain rfl := Except.ok.inj h
    rcases List.mem_cons.1 ha with rfl | ha
    · rw [Except.ok.inj (hb.symm.trans hc)]
      exact List.mem_cons_self
    · exact List.mem_cons_of_mem _ (ih hothers ha)

/-- The identifier of a record is the name of its document, not a part of it; its slug and its
snapshot are read from the document. -/
theorem of_toRecord {id : String} {doc : Document} {r : Record} (h : toRecord now id doc = .ok r) :
    r.id = id ∧ Entries.get? "slug" doc = some (.text r.slug) ∧
      readPublished now doc = .ok r.published := by
  rw [toRecord] at h
  obtain ⟨workspace, -, h⟩ := ok_of_bind h
  obtain ⟨slug, hslug, h⟩ := ok_of_bind h
  obtain ⟨draft, -, h⟩ := ok_of_bind h
  obtain ⟨published, hpublished, h⟩ := ok_of_bind h
  obtain ⟨createdAt, -, h⟩ := ok_of_bind h
  obtain ⟨updatedAt, -, h⟩ := ok_of_bind h
  rw [get?_of_field hslug, hpublished]
  refine of_readable (P := fun q => q.id = id ∧ some slug = some (.text q.slug) ∧
    Except.ok published = Except.ok q.published) ?_ h
  refine .seq (.seq (.seq (.seq (.map fun _ _ _ _ s hs _ _ _ _ => ?_))))
  exact ⟨rfl, congrArg some (eq_of_text (Parsed.under_eq_ok hs)), rfl⟩

theorem found_of_bySlug {slug : String} {r : Record}
    (h : (d.run q now (.bySlug slug)).reply = .ok (some r)) :
    r.slug = slug ∧ ∃ doc, (r.id, doc) ∈ d.intakes ∧ toRecord now r.id doc = .ok r := by
  cases hfind : q.find? "slug" slug d.intakes with
  | none =>
    rw [run, hfind] at h
    cases h
  | some e =>
    obtain ⟨id, doc⟩ := e
    obtain ⟨hmem, his⟩ := Queries.mem_of_find? hfind
    have hfield : Entries.get? "slug" doc = some (.text slug) := by
      simpa [Collection.fieldIs] using his
    rw [run, hfind] at h
    cases hread : toRecord now id doc with
    | error f => simp [hread, Except.map] at h
    | ok found =>
      obtain rfl : found = r := by simpa [hread, Except.map] using h
      obtain ⟨rfl, hslug, -⟩ := of_toRecord hread
      rw [hfield] at hslug
      exact ⟨(Value.text.inj (Option.some.inj hslug)).symm, doc, hmem, hread⟩

theorem update_ok {id name : String} {written : Except Obstacle Value} {next : Documents}
    (h : update id name written now d = .ok next) :
    ∃ v doc, written = .ok v ∧ Entries.get? id d.intakes = some doc ∧
      next = { d with
        intakes := Entries.put id (Entries.putAll doc [(name, v), ("updated_at", .moment now)])
          d.intakes } := by
  cases written with
  | error o => cases h
  | ok v =>
    cases hget : Entries.get? id d.intakes with
    | none => simp [update, writable, Except.mapError, bind, Except.bind, hget] at h
    | some doc =>
      simp only [update, writable, Except.mapError, bind, Except.bind, hget] at h
      exact ⟨v, doc, rfl, rfl, (Except.ok.inj h).symm⟩

theorem state_bySlug (slug : String) : (d.run q now (.bySlug slug)).state = d := by
  rw [run]
  split <;> rfl

theorem state_run {c : Call} (hc : ¬ c.Brings) :
    (∀ id, (d.run q now c).state.collection id = d.collection id) ∧
      ((d.run q now c).state.intakes = d.intakes ∨
        ∃ id doc, (d.run q now c).state.intakes = Entries.put id doc d.intakes) := by
  cases c with
  | create title workspace draft =>
    simp only [run, create]
    split
    · exact ⟨fun _ => rfl, .inl rfl⟩
    · exact ⟨fun _ => rfl, .inr ⟨_, _, rfl⟩⟩
  | bySlug slug =>
    rw [state_bySlug]
    exact ⟨fun _ => rfl, .inl rfl⟩
  | saveDraft id draft =>
    rw [run, saveDraft]
    cases hupdate : update id "draft" draft.write? now d with
    | error f => exact ⟨fun _ => rfl, .inl rfl⟩
    | ok next =>
      obtain ⟨-, doc, -, -, rfl⟩ := update_ok hupdate
      exact ⟨fun _ => rfl, .inr ⟨_, _, rfl⟩⟩
  | publish id snapshot =>
    rw [run, publish]
    cases hupdate : update id "published" snapshot.write? now d with
    | error f => exact ⟨fun _ => rfl, .inl rfl⟩
    | ok next =>
      obtain ⟨-, doc, -, -, rfl⟩ := update_ok hupdate
      exact ⟨fun _ => rfl, .inr ⟨_, _, rfl⟩⟩
  | addSubmission id answers trail => exact absurd trivial hc
  | submissions id limit =>
    rw [run]
    cases hrequire : d.require now id with
    | error f => exact ⟨fun _ => rfl, .inl rfl⟩
    | ok r =>
      refine ⟨fun j => ?_, .inl rfl⟩
      change collection (touch id d) j = _
      rw [collection, touch, Entries.get?_put]
      split
      · next hj => rw [← hj, Option.getD_some]
      · rfl
  | _ => exact ⟨fun _ => rfl, .inl rfl⟩

/-- Every form is under an identifier of its own, and all that is held beside it are submissions
to it that have a property. -/
structure Files (P : Submission → Prop) (d : Documents) : Prop where
  nodup : (Entries.keys d.intakes).Nodup
  sent : ∀ id, ∀ e ∈ d.collection id, ∃ s, e = (s.id, ofSubmission s) ∧ s.intakeId = id ∧ P s

namespace Files

variable {P : Submission → Prop}

theorem mapM_collection (h : d.Files P) (id : String) :
    ∃ stored, ((d.collection id).mapM fun e => toSubmission id e.1 e.2) = .ok stored ∧
      ∀ s ∈ stored, P s := by
  obtain ⟨stored, hstored, hP⟩ := exists_eq_map (h.sent id)
  refine ⟨stored, ?_, fun s hs => (hP s hs).2⟩
  rw [hstored, mapM_map (g := fun s => s), List.map_id']
  intro s hs
  rw [← (hP s hs).1]
  exact toSubmission_ofSubmission s

theorem run (h : d.Files P) (q : Queries) (now : Timestamp) {c : Call} (hc : ¬ c.Brings) :
    (d.run q now c).state.Files P := by
  obtain ⟨hcollection, hintakes⟩ :
      (∀ id, (d.run q now c).state.collection id = d.collection id) ∧ _ := state_run hc
  refine ⟨?_, fun id => ?_⟩
  · rcases hintakes with hn | ⟨id, doc, hn⟩
    · rw [hn]
      exact h.nodup
    · rw [hn]
      exact Entries.keys_put_nodup h.nodup
  · rw [hcollection id]
    exact h.sent id

theorem receive (h : d.Files P) {slug : String} {r : Record}
    (hr : (d.run q now (.bySlug slug)).reply = .ok (some r)) (answers : Answer.Answers)
    (trail : Trail) :
    (d.run q now (.addSubmission r.id answers trail)).reply =
        .ok ⟨(Ids.newId "sub" d.ids).1, r.id, answers, trail, now⟩ ∧
      (P ⟨(Ids.newId "sub" d.ids).1, r.id, answers, trail, now⟩ →
        (d.run q now (.addSubmission r.id answers trail)).state.Files P) := by
  obtain ⟨-, doc, hdoc, hread⟩ := found_of_bySlug hr
  have hrequire : d.require now r.id = .ok r := by
    rw [require, Entries.get?_of_mem h.nodup hdoc]
    exact hread
  simp only [Documents.run, addSubmission, hrequire]
  refine ⟨trivial, fun hP => ⟨h.nodup, fun id e he => ?_⟩⟩
  rw [collection, putSubmission, Entries.get?_put] at he
  split at he
  · next hid =>
    subst hid
    rcases Entries.mem_put he with rfl | he
    · exact ⟨_, rfl, rfl, hP⟩
    · exact h.sent _ e he
  · exact h.sent id e he

theorem add (h : d.Files P) {slug : String} {r : Record} {s : Submission}
    (hr : (d.run q now (.bySlug slug)).reply = .ok (some r)) {answers : Answer.Answers}
    {trail : Trail} (hok : (d.run q now (.addSubmission r.id answers trail)).reply = .ok s) :
    r.slug = slug ∧
      (d.run q now (.addSubmission r.id answers trail)).state.record? now r.id = .ok (some r) ∧
      (s.id, ofSubmission s) ∈
        (d.run q now (.addSubmission r.id answers trail)).state.collection r.id := by
  obtain ⟨hslug, doc, hdoc, hread⟩ := found_of_bySlug hr
  have hget := Entries.get?_of_mem h.nodup hdoc
  have hrequire : d.require now r.id = .ok r := by
    rw [require, hget]
    exact hread
  simp only [Documents.run, addSubmission, hrequire, Except.ok.injEq] at hok ⊢
  subst hok
  refine ⟨hslug, ?_, ?_⟩
  · change record? now d r.id = _
    rw [record?, hget]
    exact congrArg (Except.map some) hread
  · rw [collection, putSubmission, Entries.get?_put, if_pos rfl]
    exact Entries.mem_of_get? ((Entries.get?_put ..).trans (if_pos rfl))

end Files

theorem eq_of_writtenUnless {obstacle : Option Obstacle} {written v : Value}
    (h : Value.writtenUnless obstacle written = .ok v) : v = written := by
  cases obstacle with
  | none => exact (Except.ok.inj h).symm
  | some o => cases h

theorem published_of_write {doc : Document} {s : Snapshot} {found : Option Snapshot}
    (hdoc : Entries.get? "published" doc = some s.write) (hat : s.publishedAt.Valid)
    (h : readPublished now doc = .ok found) :
    ∃ q, found = some q ∧ q.publishedAt = s.publishedAt := by
  have htruthy : s.write.truthy = true := by simp [Snapshot.write, Value.object, Value.truthy]
  rw [readPublished, hdoc, Option.getD_some, if_pos htruthy] at h
  cases hread : readable (Snapshot.shape now s.write) with
  | error f => simp [hread, Except.map] at h
  | ok q =>
    rw [hread] at h
    refine ⟨q, (Except.ok.inj h).symm, ?_⟩
    exact of_readable (fun _ => Snapshot.publishedAt_of_shape_write hat) hread

theorem publish_ok {id : String} {r updated : Record} {snapshot : Snapshot}
    (hr : d.record? now id = .ok (some r)) (hat : snapshot.publishedAt.Valid)
    (hok : (d.run q now (.publish id snapshot)).reply = .ok updated) :
    (d.run q now (.publish id snapshot)).state.record? now id = .ok (some updated) ∧
      updated.id = id ∧ updated.slug = r.slug ∧
        ∃ s, updated.published = some s ∧ s.publishedAt = snapshot.publishedAt := by
  rw [run, publish] at hok ⊢
  cases hupdate : update id "published" snapshot.write? now d with
  | error f => simp [hupdate] at hok
  | ok next =>
    obtain ⟨v, doc, hwrite, hget, rfl⟩ := update_ok hupdate
    have hput := Entries.get?_put id id
      (Entries.putAll doc [("published", v), ("updated_at", .moment now)]) d.intakes
    rw [if_pos rfl] at hput
    simp only [hupdate, require, hput] at hok
    obtain ⟨hid, hslug, hpublished⟩ := of_toRecord hok
    refine ⟨?_, hid, ?_, ?_⟩
    · simp only [record?, hput, hok]
      rfl
    · -- the slug is in a field that stays as it was
      rw [record?, hget] at hr
      cases hread : toRecord now id doc with
      | error f => simp [hread, Except.map] at hr
      | ok q =>
        obtain rfl : q = r := by simpa [hread, Except.map] using hr
        rw [Entries.putAll, Entries.putAll, Entries.putAll, Entries.get?_put, Entries.get?_put,
          if_neg (by decide), if_neg (by decide), (of_toRecord hread).2.1] at hslug
        exact (Value.text.inj (Option.some.inj hslug)).symm
    · refine published_of_write ?_ hat hpublished
      rw [Entries.putAll, Entries.putAll, Entries.putAll, Entries.get?_put, Entries.get?_put,
        if_neg (by decide), if_pos rfl, eq_of_writtenUnless hwrite]

end Documents

namespace Store.Kind

def Files (P : Submission → Prop) : (k : Kind) → k.State → Prop
  | .memory, m => Memory.Files P m
  | .documents _, d => Documents.Files P d

variable {P Q : Submission → Prop} {k : Kind} {st : k.State} {now : Timestamp}

theorem files_empty (P : Submission → Prop) (k : Kind) (ids : Ids) : k.Files P (k.empty ids) := by
  cases k with
  | memory => exact ⟨⟨List.nodup_nil, nofun⟩, nofun⟩
  | documents q => exact ⟨List.nodup_nil, nofun⟩

theorem state_bySlug (k : Kind) (now : Timestamp) (slug : String) (st : k.State) :
    (k.backend.run now (.bySlug slug) st).state = st := by
  cases k with
  | memory => rfl
  | documents q => exact Documents.state_bySlug slug

namespace Files

theorem mono (h : k.Files P st) (himp : ∀ s, P s → Q s) : k.Files Q st := by
  cases k with
  | memory => exact ⟨h.keyed, fun id s hs => himp s (h.sent id s hs)⟩
  | documents q =>
    refine ⟨h.nodup, fun id e he => ?_⟩
    obtain ⟨s, hs, howned, hP⟩ := h.sent id e he
    exact ⟨s, hs, howned, himp s hP⟩

theorem holdings (h : k.Files P st) (moment : Timestamp) (id : String) :
    ∃ stored, (k.holdings moment st).submissions id = .ok stored ∧ ∀ s ∈ stored, P s := by
  cases k with
  | memory => exact ⟨_, rfl, h.sent id⟩
  | documents q => exact h.mapM_collection id

theorem run (h : k.Files P st) (now : Timestamp) {c : Call} (hc : ¬ c.Brings) :
    k.Files P (k.backend.run now c st).state := by
  cases k with
  | memory => exact Memory.Files.run h now hc
  | documents q => exact Documents.Files.run h q now hc

theorem receive (h : k.Files P st) {slug : String} {r : Record}
    (hr : (k.backend.run now (.bySlug slug) st).reply = .ok (some r))
    (answers : Answer.Answers) (trail : Trail) :
    (k.backend.run now (.addSubmission r.id answers trail) st).reply =
        .ok ⟨(Ids.newId "sub" (k.ids st)).1, r.id, answers, trail, now⟩ ∧
      (P ⟨(Ids.newId "sub" (k.ids st)).1, r.id, answers, trail, now⟩ →
        k.Files P (k.backend.run now (.addSubmission r.id answers trail) st).state) := by
  cases k with
  | memory => exact Memory.Files.receive h hr answers trail
  | documents q => exact Documents.Files.receive h hr answers trail

theorem publish (h : k.Files P st) {id : String} {r updated : Record} {snapshot : Snapshot}
    (hr : (k.backend.run now (.get id) st).reply = .ok (some r))
    (hat : snapshot.publishedAt.Valid)
    (hok : (k.backend.run now (.publish id snapshot) st).reply = .ok updated) :
    (k.holdings now (k.backend.run now (.publish id snapshot) st).state).record? id =
        .ok (some updated) ∧
      updated.id = id ∧ updated.slug = r.slug ∧
        ∃ s, updated.published = some s ∧ s.publishedAt = snapshot.publishedAt := by
  cases k with
  | memory =>
    obtain ⟨hnext, rfl, hid⟩ := Memory.Files.publish h (Except.ok.inj hr) hok
    exact ⟨congrArg (fun found => Except.ok (Option.map (form .memory) found)) hnext, hid, rfl, _,
      rfl, rfl⟩
  | documents q => exact Documents.publish_ok (q := q) hr hat hok

theorem add (h : k.Files P st) {slug : String} {r : Record} {s : Submission}
    (hr : (k.backend.run now (.bySlug slug) st).reply = .ok (some r)) {answers : Answer.Answers}
    {trail : Trail}
    (hok : (k.backend.run now (.addSubmission r.id answers trail) st).reply = .ok s) :
    r.id = s.intakeId ∧ r.slug = slug ∧
      (k.holdings now (k.backend.run now (.addSubmission r.id answers trail) st).state).record?
        s.intakeId = .ok (some r) ∧
      ∃ stored, (k.holdings now
        (k.backend.run now (.addSubmission r.id answers trail) st).state).submissions s.intakeId =
          .ok stored ∧ s ∈ stored := by
  obtain ⟨hreply, hnext⟩ := (h.mono fun _ _ => trivial : k.Files (fun _ => True) st).receive hr
    answers trail
  obtain rfl := Except.ok.inj (hreply.symm.trans hok)
  refine ⟨rfl, ?_⟩
  cases k with
  | memory =>
    obtain ⟨hslug, hrecord, hmem⟩ := Memory.Files.add h hr hok
    exact ⟨hslug, congrArg (fun found => Except.ok (Option.map (form .memory) found)) hrecord, _,
      rfl, hmem⟩
  | documents q =>
    obtain ⟨hslug, hrecord, hmem⟩ := Documents.Files.add h hr hok
    obtain ⟨stored, hstored, -⟩ := Documents.Files.mapM_collection (hnext trivial) r.id
    refine ⟨hslug, hrecord, stored, hstored, ?_⟩
    exact Documents.mem_of_mapM hstored hmem (Documents.toSubmission_ofSubmission _)

end Files

end Store.Kind

end IntakeForms
