import IntakeForms.Proofs.Store.Keeping

/-! What a store lists.  Whatever is asked of it with drafts that could be read, either store can
list all it holds, the latest first; the one in memory lists all of it, and the one of documents
as many as it lists at most. -/

namespace IntakeForms

/-- A record that can be read again and has its place among others. -/
structure Record.Listable (r : Record) : Prop where
  genuine : r.Genuine
  zoned : r.updatedAt.offset.isSome = true

namespace Memory

variable {m : Memory}

structure Shelved (m : Memory) : Prop where
  keyed : m.Keyed
  listable : ∀ r ∈ m.all, r.Listable

theorem Shelved.run (h : m.Shelved) {now : Timestamp} (hnow : now.offset.isSome = true) {c : Call}
    (hc : c.Genuine) : (m.run now c).2.Shelved := by
  have hgenuine := genuine_run (fun r hr => (h.listable r hr).genuine) now hc
  have hzoned : ∀ r ∈ (m.run now c).2.all, r.updatedAt.offset.isSome = true :=
    forall_run (P := fun r => r.updatedAt.offset.isSome = true)
      (fun r hr => (h.listable r hr).zoned) (fun _ _ _ _ _ _ => hnow) (fun _ _ _ _ _ => hnow)
      fun _ _ _ _ _ => hnow
  exact ⟨h.keyed.run now c, fun r hr => ⟨hgenuine r hr, hzoned r hr⟩⟩

theorem Shelved.keys_eq (h : m.Shelved) : Entries.keys m.records = m.all.map Record.id := by
  rw [Memory.all, List.map_map]
  refine List.map_congr_left fun e he => ?_
  exact (h.keyed.keyed (Entries.get?_of_mem h.keyed.nodup he)).symm

end Memory

namespace Documents

variable {d : Documents} {q : Queries} {now : Timestamp}

/-- Every document is that of a record, under its identifier. -/
structure Shelved (d : Documents) : Prop where
  nodup : (Entries.keys d.intakes).Nodup
  listable : ∀ e ∈ d.intakes, ∃ r : Record, e = (r.id, document r) ∧ r.Listable

theorem of_writable {written : Except Obstacle Value} {v : Value} (h : writable written = .ok v) :
    written = .ok v := by
  cases written with
  | error o => cases h
  | ok u => rw [Except.ok.inj h]

theorem eq_of_ofRecord {r : Record} {doc : Document} (h : ofRecord r = .ok doc) :
    doc = document r := by
  obtain ⟨draft, hdraft, h⟩ := ok_of_bind h
  obtain ⟨published, hpublished, h⟩ := ok_of_bind h
  obtain rfl := eq_of_writtenUnless (of_writable hdraft)
  have hsnapshot : published = .optional Snapshot.write r.published := by
    cases hs : r.published with
    | none =>
      rw [hs] at hpublished
      exact (Except.ok.inj hpublished).symm
    | some s =>
      rw [hs] at hpublished
      exact eq_of_writtenUnless (of_writable hpublished)
  rw [← Except.ok.inj h, hsnapshot]
  rfl

namespace Shelved

theorem put (h : d.Shelved) {r : Record} (hr : r.Listable) {next : Documents}
    (hnext : next.intakes = Entries.put r.id (document r) d.intakes) : next.Shelved := by
  refine ⟨hnext ▸ Entries.keys_put_nodup h.nodup, fun e he => ?_⟩
  rw [hnext] at he
  rcases Entries.mem_put he with rfl | he
  · exact ⟨r, rfl, hr⟩
  · exact h.listable e he

theorem update (h : d.Shelved) (change : Record → Record) {id name : String}
    {written : Except Obstacle Value} {next : Documents}
    (hnext : update id name written now d = .ok next) (hid : ∀ r, (change r).id = r.id)
    (hdocument : ∀ v, written = .ok v → ∀ r,
      Entries.putAll (document r) [(name, v), ("updated_at", .moment now)] = document (change r))
    (hlistable : ∀ r, r.Listable → (change r).Listable) : next.Shelved := by
  obtain ⟨v, doc, hv, hget, rfl⟩ := update_ok hnext
  obtain ⟨r, he, hr⟩ := h.listable _ (Entries.mem_of_get? hget)
  obtain ⟨rfl, rfl⟩ := Prod.mk.inj he
  refine h.put (hlistable r hr) ?_
  rw [hid, ← hdocument v hv r]

theorem run (h : d.Shelved) (q : Queries) (hnow : now.offset.isSome = true) {c : Call}
    (hc : c.Genuine) : (d.run q now c).state.Shelved := by
  cases c with
  | create title workspace draft =>
    simp only [Documents.run, create]
    split
    · exact ⟨h.nodup, h.listable⟩
    · next doc hdoc =>
      refine h.put (r := Store.freshRecord title workspace draft _ _ now) ⟨⟨?_, ?_⟩, hnow⟩
        (by rw [eq_of_ofRecord hdoc]; rfl)
      · cases draft with
        | none => simp [Store.freshRecord, Draft.titled, Draft.Genuine]
        | some d => exact hc d rfl
      · simp [Store.freshRecord]
  | bySlug slug =>
    rw [state_bySlug]
    exact h
  | saveDraft id draft =>
    rw [Documents.run, saveDraft]
    cases hupdate : Documents.update id "draft" draft.write? now d with
    | error f => exact h
    | ok next =>
      refine h.update (fun r => { r with draft := draft, updatedAt := now }) hupdate
        (fun _ => rfl) (fun v hv r => ?_) fun r hr => ⟨⟨hc, hr.genuine.published⟩, hnow⟩
      rw [eq_of_writtenUnless hv]
      rfl
  | publish id snapshot =>
    rw [Documents.run, publish]
    cases hupdate : Documents.update id "published" snapshot.write? now d with
    | error f => exact h
    | ok next =>
      refine h.update (fun r => { r with published := some snapshot, updatedAt := now }) hupdate
        (fun _ => rfl) (fun v hv r => ?_)
        fun r hr => ⟨⟨hr.genuine.draft, fun s hs => Option.some.inj hs ▸ hc⟩, hnow⟩
      rw [eq_of_writtenUnless hv]
      rfl
  | addSubmission id answers trail =>
    simp only [Documents.run, addSubmission]
    split <;> exact ⟨h.nodup, h.listable⟩
  | submissions id limit =>
    rw [Documents.run]
    split <;> exact ⟨h.nodup, h.listable⟩
  | _ => exact h

end Shelved

end Documents

/-- These are the records that are held, in the order in which they were made. -/
structure Holdings.Comprises (h : Holdings) (records : List Record) : Prop where
  ids : records.map Record.id = h.ids
  nodup : h.ids.Nodup
  record? : ∀ id r, h.record? id = .ok (some r) ↔ r ∈ records ∧ r.id = id

namespace Memory.Shelved

theorem comprises {m : Memory} (h : m.Shelved) : (m.seen id).Comprises m.all where
  ids := h.keys_eq.symm
  nodup := h.keyed.nodup
  record? := by
    intro id r
    change Except.ok ((m.record? id).map fun r => r) = Except.ok (some r) ↔ _
    rw [Option.map_id']
    constructor
    · intro hr
      have hr : m.record? id = some r := Except.ok.inj hr
      exact ⟨mem_all_of_record? hr, h.keyed.keyed hr⟩
    · rintro ⟨hr, rfl⟩
      exact congrArg Except.ok (h.keyed.record?_of_mem hr)

end Memory.Shelved

namespace Documents.Shelved

variable {d : Documents}

theorem comprises (h : d.Shelved) {records : List Record}
    (hintakes : d.intakes = records.map fun r => (r.id, document r))
    (hrecords : ∀ r ∈ records, r.Listable) (now : Timestamp) :
    (d.seen now).Comprises (records.map Record.plain) where
  ids := by
    change _ = Entries.keys d.intakes
    rw [hintakes, Entries.keys, List.map_map, List.map_map]
    rfl
  nodup := h.nodup
  record? := by
    have hread (r : Record) (hr : r ∈ records) : d.record? now r.id = .ok (some r.plain) := by
      have hmem : (r.id, document r) ∈ d.intakes := hintakes ▸ List.mem_map_of_mem hr
      rw [Documents.record?, Entries.get?_of_mem h.nodup hmem]
      exact congrArg (Except.map some) (toRecord_document (hrecords r hr).genuine now)
    intro id q
    change d.record? now id = .ok (some q) ↔ _
    constructor
    · intro hq
      cases hget : Entries.get? id d.intakes with
      | none => simp [Documents.record?, hget] at hq
      | some doc =>
        have hmem := Entries.mem_of_get? hget
        rw [hintakes] at hmem
        obtain ⟨r, hr, he⟩ := List.mem_map.1 hmem
        obtain ⟨rfl, -⟩ := Prod.mk.inj he
        rw [hread r hr] at hq
        rw [← Option.some.inj (Except.ok.inj hq)]
        exact ⟨List.mem_map_of_mem hr, rfl⟩
    · rintro ⟨hq, rfl⟩
      obtain ⟨r, hr, rfl⟩ := List.mem_map.1 hq
      exact hread r hr

end Documents.Shelved

namespace Store.Kind

variable {k : Kind} {st : k.State} {now : Timestamp}

def Shelved : (k : Kind) → k.State → Prop
  | .memory, m => Memory.Shelved m
  | .documents _, d => Documents.Shelved d

theorem shelved_empty (k : Kind) (ids : Ids) : k.Shelved (k.empty ids) := by
  cases k with
  | memory => exact ⟨⟨List.nodup_nil, nofun⟩, fun _ hr => absurd hr List.not_mem_nil⟩
  | documents q => exact ⟨List.nodup_nil, nofun⟩

def cut {α : Type} : Kind → List α → List α
  | .memory, items => items
  | .documents _, items => items.take Documents.maxListed

theorem cut_eq_take {α : Type} (k : Kind) (items : List α) : ∃ n, k.cut items = items.take n := by
  cases k with
  | memory => exact ⟨items.length, List.take_length.symm⟩
  | documents q => exact ⟨_, rfl⟩

theorem length_cut_eq_iff {α : Type} {items : List α} :
    (k.cut items).length = items.length ↔ k = .memory ∨ items.length ≤ Documents.maxListed := by
  cases k with
  | memory => simp [cut]
  | documents q => simp [cut]

section

variable {own sorted : List Record}

theorem sorted_cut (k : Kind) (h : IsLatestFirst Record.updatedAt own sorted) :
    (k.cut sorted).Pairwise fun r q => q.updatedAt.instant ≤ r.updatedAt.instant := by
  obtain ⟨n, hn⟩ := k.cut_eq_take sorted
  rw [hn]
  exact h.later.sublist (List.take_sublist n _)

theorem subperm_cut (k : Kind) (h : IsLatestFirst Record.updatedAt own sorted) :
    (k.cut sorted).Subperm own := by
  obtain ⟨n, hn⟩ := k.cut_eq_take sorted
  rw [hn]
  exact (List.take_sublist n _).subperm.trans h.perm.subperm

theorem latest_cut (k : Kind) (h : IsLatestFirst Record.updatedAt own sorted) {r q : Record}
    (hr : r ∈ own) (hcut : r ∉ k.cut sorted) (hq : q ∈ k.cut sorted) :
    r.updatedAt.instant ≤ q.updatedAt.instant := by
  obtain ⟨n, hn⟩ := k.cut_eq_take sorted
  rw [hn] at hcut hq
  have hlater := h.later
  have hmem : r ∈ sorted := h.mem_iff.2 hr
  rw [← List.take_append_drop n sorted] at hlater hmem
  exact (List.pairwise_append.1 hlater).2.2 q hq r ((List.mem_append.1 hmem).resolve_left hcut)

theorem perm_cut_iff (k : Kind) (h : IsLatestFirst Record.updatedAt own sorted) :
    (k.cut sorted).Perm own ↔ k = .memory ∨ own.length ≤ Documents.maxListed := by
  have hlength := h.perm.length_eq
  rw [← hlength, ← length_cut_eq_iff, hlength]
  exact ⟨List.Perm.length_eq, fun hle => (subperm_cut k h).perm_of_length_le hle.ge⟩

end

namespace Shelved

theorem run (h : k.Shelved st) (hnow : now.offset.isSome = true) {c : Call} (hc : c.Genuine) :
    k.Shelved (k.backend.run now c st).state := by
  cases k with
  | memory => exact Memory.Shelved.run h hnow hc
  | documents q => exact Documents.Shelved.run h q hnow hc

theorem get (h : k.Shelved st) {id : String} {r : Record}
    (hr : (k.backend.run now (.get id) st).reply = .ok (some r)) : r.draft.Genuine := by
  cases k with
  | memory =>
    have hr : Memory.record? st id = some r := Except.ok.inj hr
    exact (Memory.Shelved.listable h r (Memory.mem_all_of_record? hr)).genuine.draft
  | documents q =>
    obtain ⟨records, hintakes, hrecords⟩ := exists_eq_map (Documents.Shelved.listable h)
    have hheld := Documents.Shelved.comprises h hintakes hrecords now
    obtain ⟨hmem, -⟩ := (hheld.record? id r).1 hr
    obtain ⟨held, hheld, rfl⟩ := List.mem_map.1 hmem
    exact (hrecords held hheld).genuine.draft.plain

theorem list (h : k.Shelved st) (now : Timestamp) :
    ∃ records, (k.holdings now st).Comprises records ∧ ∀ workspace, ∃ sorted,
      IsLatestFirst Record.updatedAt (records.filter (Memory.inWorkspace workspace)) sorted ∧
        (k.backend.run now (.list workspace) st).reply = .ok (k.cut sorted) := by
  cases k with
  | memory =>
    exact ⟨Memory.all st, Memory.Shelved.comprises h, fun _ =>
      ⟨_, isLatestFirst_latestFirst Record.updatedAt _, rfl⟩⟩
  | documents q =>
    obtain ⟨records, hintakes, hrecords⟩ := exists_eq_map (Documents.Shelved.listable h)
    refine ⟨_, Documents.Shelved.comprises h hintakes hrecords now, fun workspace => ?_⟩
    obtain ⟨sorted, hsorted, hlist⟩ := Documents.list_documents q hintakes
      (fun r hr => ⟨(hrecords r hr).genuine, (hrecords r hr).zoned⟩) now workspace
    refine ⟨sorted.map Record.plain, ?_, hlist.trans (congrArg Except.ok List.map_take)⟩
    rw [List.filter_map]
    exact hsorted.map fun _ => rfl

end Shelved

end Store.Kind

end IntakeForms
