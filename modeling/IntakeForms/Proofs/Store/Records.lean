import IntakeForms.Store.Memory
import Mathlib.Tactic.SplitIfs

/-! Records in memory.  One lemma says what a call can do to them; from it, a store
keeps every record under its own identifier and a slug of its own, as long as what
is drawn for a new record is new. -/

namespace IntakeForms.Memory

/-- What a call makes of the records: nothing, a new one, or a new draft or snapshot in one. -/
inductive Rewrite (now : Timestamp) (m : Memory) (next : List (String × Record)) : Call → Prop
  | kept (c : Call) : next = m.records → Rewrite now m next c
  | created {title workspace : String} {draft : Option Draft} {r : Record} :
      r.id = (Ids.newId "intake" m.ids).1 →
      r.slug = (Ids.slug title (Ids.newId "intake" m.ids).2).1 →
      r.published = none →
      next = Entries.put r.id r m.records →
      Rewrite now m next (.create title workspace draft)
  | drafted {id : String} {draft : Draft} {r : Record} :
      m.record? id = some r →
      next = Entries.put r.id { r with draft := draft, updatedAt := now } m.records →
      Rewrite now m next (.saveDraft id draft)
  | published {id : String} {snapshot : Snapshot} {r : Record} :
      m.record? id = some r →
      next = Entries.put r.id { r with published := some snapshot, updatedAt := now } m.records →
      Rewrite now m next (.publish id snapshot)

theorem rewrite_run (now : Timestamp) (c : Call) (m : Memory) :
    Rewrite now m (run now c m).2.records c := by
  cases c with
  | create title workspace draft =>
    exact .created (r := (m.create title workspace draft now).1) rfl rfl rfl rfl
  | get id => exact .kept _ rfl
  | bySlug slug => exact .kept _ rfl
  | list workspace => exact .kept _ rfl
  | saveDraft id draft =>
    cases hr : m.record? id with
    | none => exact .kept _ (by simp [run, hr])
    | some r => exact .drafted hr (by simp [run, hr, store])
  | publish id snapshot =>
    cases hr : m.record? id with
    | none => exact .kept _ (by simp [run, hr])
    | some r => exact .published hr (by simp [run, hr, store])
  | addSubmission id answers trail =>
    cases hr : m.record? id with
    | none => exact .kept _ (by simp [run, hr])
    | some r => exact .kept _ (by simp [run, hr, addSubmission])
  | submissions id limit =>
    cases hr : m.record? id with
    | none => exact .kept _ (by simp [run, hr])
    | some r => exact .kept _ (by simp [run, hr])

theorem forall_put {P : Record → Prop} {m : Memory} {id : String} {r : Record}
    (h : ∀ r ∈ m.all, P r) (hr : P r) : ∀ q ∈ (Entries.put id r m.records).map Prod.snd, P q := by
  intro q hq
  obtain ⟨⟨key, q⟩, hmem, rfl⟩ := List.mem_map.1 hq
  rcases Entries.mem_put hmem with heq | hmem
  · rw [(Prod.mk.inj heq).2]
    exact hr
  · exact h q (List.mem_map_of_mem hmem)

/-- What holds of all records holds of them after a call if it holds of a new one and outlasts
a new draft and a new snapshot. -/
theorem forall_run {P : Record → Prop} {now : Timestamp} {c : Call} {m : Memory}
    (h : ∀ r ∈ m.all, P r)
    (created : ∀ title workspace draft id slug, c = .create title workspace draft →
      P (Store.freshRecord title workspace draft id slug now))
    (drafted : ∀ id draft r, c = .saveDraft id draft → P r →
      P { r with draft := draft, updatedAt := now })
    (published : ∀ id snapshot r, c = .publish id snapshot → P r →
      P { r with published := some snapshot, updatedAt := now }) :
    ∀ r ∈ (m.run now c).2.all, P r := by
  have hget {id : String} {r : Record} (hr : m.record? id = some r) : P r :=
    h r (List.mem_map_of_mem (Entries.mem_of_get? hr))
  cases c with
  | create title workspace draft => exact forall_put h (created title workspace draft _ _ rfl)
  | saveDraft id draft =>
    cases hr : m.record? id with
    | none => simpa only [run, hr] using h
    | some r =>
      simp only [run, hr]
      exact forall_put h (drafted id draft r rfl (hget hr))
  | publish id snapshot =>
    cases hr : m.record? id with
    | none => simpa only [run, hr] using h
    | some r =>
      simp only [run, hr]
      exact forall_put h (published id snapshot r rfl (hget hr))
  | addSubmission id answers trail =>
    cases hr : m.record? id with
    | none => simpa only [run, hr] using h
    | some r =>
      simp only [run, hr]
      exact h
  | submissions id limit =>
    cases hr : m.record? id <;> simpa only [run, hr] using h
  | get id => exact h
  | bySlug slug => exact h
  | list workspace => exact h

/-- Every record is under its identifier. -/
structure Keyed (m : Memory) : Prop where
  nodup : (Entries.keys m.records).Nodup
  keyed : ∀ {id r}, m.record? id = some r → r.id = id

/-- Every record is under its identifier, and no two have one slug. -/
structure Sound (m : Memory) : Prop where
  nodup : (Entries.keys m.records).Nodup
  keyed : ∀ {id r}, m.record? id = some r → r.id = id
  slugs : ∀ {i j r q}, m.record? i = some r → m.record? j = some q → r.slug = q.slug → i = j

def Fresh (m : Memory) (title : String) : Prop :=
  ∀ r ∈ m.all, r.id ≠ (Ids.newId "intake" m.ids).1 ∧
    r.slug ≠ (Ids.slug title (Ids.newId "intake" m.ids).2).1

instance (m : Memory) (title : String) : Decidable (m.Fresh title) :=
  inferInstanceAs (Decidable (∀ r ∈ m.all, _))

theorem record?_empty {m : Memory} (h : m.records = []) (id : String) : m.record? id = none := by
  rw [record?, h]
  rfl

theorem mem_all_of_record? {m : Memory} {id : String} {r : Record} (h : m.record? id = some r) :
    r ∈ m.all :=
  List.mem_map_of_mem (Entries.mem_of_get? h)

section

variable {m n : Memory}

theorem record?_put {r : Record} (hn : n.records = Entries.put r.id r m.records) (id : String) :
    n.record? id = if r.id = id then some r else m.record? id := by
  rw [record?, hn, Entries.get?_put, record?]

theorem record?_store (m : Memory) (r : Record) : (m.store r).record? r.id = some r := by
  rw [record?_put (m := m) rfl, if_pos rfl]

theorem Sound.keyed_records (h : m.Sound) : m.Keyed := ⟨h.nodup, h.keyed⟩

namespace Keyed

theorem put (h : m.Keyed) {r : Record} (hn : n.records = Entries.put r.id r m.records) :
    n.Keyed where
  nodup := hn ▸ Entries.keys_put_nodup h.nodup
  keyed := by
    intro id q hq
    rw [record?_put hn] at hq
    split_ifs at hq with hid
    · rw [← hid, ← Option.some.inj hq]
    · exact h.keyed hq

theorem run (h : m.Keyed) (now : Timestamp) (c : Call) : (m.run now c).2.Keyed := by
  cases rewrite_run now c m with
  | kept _ hn => exact ⟨hn ▸ h.nodup, fun hr => h.keyed (by rwa [record?, hn] at hr)⟩
  | created _ _ _ hn => exact h.put hn
  | @drafted _ draft r _ hn => exact h.put (r := { r with draft := draft, updatedAt := now }) hn
  | @published _ snapshot r _ hn =>
    exact h.put (r := { r with published := some snapshot, updatedAt := now }) hn

theorem record?_of_mem (h : m.Keyed) {r : Record} (hr : r ∈ m.all) : m.record? r.id = some r := by
  obtain ⟨⟨id, q⟩, hmem, rfl⟩ := List.mem_map.1 hr
  have hget : m.record? id = some q := Entries.get?_of_mem h.nodup hmem
  rwa [h.keyed hget]

end Keyed

end

namespace Sound

variable {m n : Memory}

theorem empty (h : m.records = []) : m.Sound where
  nodup := by simp [h, Entries.keys]
  keyed hr := by simp [record?_empty h] at hr
  slugs hr := by simp [record?_empty h] at hr

theorem mem_all_iff (h : m.Sound) {r : Record} : r ∈ m.all ↔ m.record? r.id = some r :=
  ⟨h.keyed_records.record?_of_mem, mem_all_of_record?⟩

theorem record?_eq_some_iff (h : m.Sound) {id : String} {r : Record} :
    m.record? id = some r ↔ r ∈ m.all ∧ r.id = id := by
  constructor
  · intro hr
    exact ⟨mem_all_of_record? hr, h.keyed hr⟩
  · rintro ⟨hr, rfl⟩
    exact h.mem_all_iff.1 hr

theorem find_slug (h : m.Sound) {r : Record} (hr : r ∈ m.all) :
    m.all.find? (·.slug = r.slug) = some r := by
  cases hfind : m.all.find? (·.slug = r.slug) with
  | none => simpa using List.find?_eq_none.1 hfind r hr
  | some q =>
    have hslug : q.slug = r.slug := by simpa using List.find?_some hfind
    have hq := h.mem_all_iff.1 (List.mem_of_find?_eq_some hfind)
    have hr := h.mem_all_iff.1 hr
    have hid := h.slugs hq hr hslug
    rw [hid, hr] at hq
    exact hq.symm

theorem put (h : m.Sound) {r : Record} (hn : n.records = Entries.put r.id r m.records)
    (hslug : ∀ {id q}, m.record? id = some q → q.slug = r.slug → id = r.id) : n.Sound where
  nodup := (h.keyed_records.put hn).nodup
  keyed := (h.keyed_records.put hn).keyed
  slugs := by
    intro i j p q hp hq heq
    rw [record?_put hn] at hp hq
    split_ifs at hp hq with hi hj hj
    · exact hi.symm.trans hj
    · obtain rfl := Option.some.inj hp
      rw [← hi, hslug hq heq.symm]
    · obtain rfl := Option.some.inj hq
      rw [← hj, hslug hp heq]
    · exact h.slugs hp hq heq

theorem replace (h : m.Sound) {id : String} {q : Record} (hq : m.record? id = some q) (r : Record)
    (hid : r.id = q.id) (hslug : r.slug = q.slug) (hn : n.records = Entries.put r.id r m.records) :
    n.Sound := by
  refine h.put hn fun hp heq => ?_
  rw [h.slugs hp hq (heq.trans hslug), hid, h.keyed hq]

theorem run (h : m.Sound) (now : Timestamp) (c : Call)
    (fresh : ∀ title workspace draft, c = .create title workspace draft → m.Fresh title) :
    (m.run now c).2.Sound := by
  cases rewrite_run now c m with
  | kept _ hn =>
    refine ⟨hn ▸ h.nodup, fun hr => ?_, fun hr hq => ?_⟩
    · exact h.keyed (by rwa [record?, hn] at hr)
    · exact h.slugs (by rwa [record?, hn] at hr) (by rwa [record?, hn] at hq)
  | created hid hslug _ hn =>
    refine h.put hn fun hq heq => ?_
    exact absurd (heq.trans hslug) (fresh _ _ _ rfl _ (mem_all_of_record? hq)).2
  | @drafted _ draft r hr hn =>
    exact h.replace hr { r with draft := draft, updatedAt := now } rfl rfl hn
  | @published _ snapshot r hr hn =>
    exact h.replace hr { r with published := some snapshot, updatedAt := now } rfl rfl hn

end Sound

theorem Fresh.absent {m : Memory} {title : String} (h : m.Fresh title) (hm : m.Sound) :
    m.record? (Ids.newId "intake" m.ids).1 = none := by
  refine Option.eq_none_iff_forall_ne_some.2 fun r hr => ?_
  exact (h r (mem_all_of_record? hr)).1 (hm.keyed hr)

end IntakeForms.Memory
