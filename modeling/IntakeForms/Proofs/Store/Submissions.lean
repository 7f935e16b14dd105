import IntakeForms.Proofs.Store.Records

/-! Submissions in memory.  Every one of them is stored under the record it was sent to, and all
moments are of the one kind that has an order, if every call comes at such a moment and draws
nothing that is in use. -/

namespace IntakeForms.Memory

/-- What the call draws from the source of identifiers is not in use. -/
def Draws (m : Memory) : Call → Prop
  | .create title _ _ => m.Fresh title
  | .addSubmission id _ _ => ∀ s ∈ m.submissionsOf id, s.id ≠ (Ids.newId "sub" m.ids).1
  | _ => True

instance (m : Memory) (c : Call) : Decidable (m.Draws c) := by
  cases c <;> unfold Draws <;> infer_instance

structure Orderly (m : Memory) : Prop where
  sound : m.Sound
  owned : ∀ {id s}, s ∈ m.submissionsOf id → s.intakeId = id ∧ (m.record? id).isSome = true
  updated : ∀ {id r}, m.record? id = some r → r.updatedAt.offset.isSome = true
  received : ∀ {id s}, s ∈ m.submissionsOf id → s.createdAt.offset.isSome = true

theorem submissionsOf_eq {m n : Memory} (h : n.submissions = m.submissions) (id : String) :
    n.submissionsOf id = m.submissionsOf id := by
  rw [submissionsOf, h, submissionsOf]

theorem submissionsOf_put {m n : Memory} {key : String} {stored : List Submission}
    (h : n.submissions = Entries.put key stored m.submissions) (id : String) :
    n.submissionsOf id = if key = id then stored else m.submissionsOf id := by
  rw [submissionsOf, h, Entries.get?_put]
  split <;> rfl

namespace Orderly

variable {m : Memory} {now : Timestamp}

theorem empty (hrecords : m.records = []) (hsubmissions : m.submissions = []) : m.Orderly where
  sound := .empty hrecords
  owned h := by simp [submissionsOf, hsubmissions, Entries.get?] at h
  updated h := by simp [record?_empty hrecords] at h
  received h := by simp [submissionsOf, hsubmissions, Entries.get?] at h

theorem submissionsOf_absent (h : m.Orderly) {id : String} (hid : m.record? id = none) :
    m.submissionsOf id = [] := by
  refine List.eq_nil_iff_forall_not_mem.2 fun s hs => ?_
  have := (h.owned hs).2
  rw [hid] at this
  cases this

theorem replace (h : m.Orderly) (hnow : now.offset.isSome = true) {id : String} {r : Record}
    (hr : m.record? id = some r) (changed : Record) (hid : changed.id = r.id)
    (hslug : changed.slug = r.slug) (hat : changed.updatedAt = now) :
    (m.store changed).Orderly where
  sound := h.sound.replace hr changed hid hslug rfl
  owned := by
    intro id s hs
    obtain ⟨howner, hsome⟩ := h.owned hs
    refine ⟨howner, ?_⟩
    rw [record?_put (m := m) rfl]
    split
    · rfl
    · exact hsome
  updated := by
    intro id q hq
    rw [record?_put (m := m) rfl] at hq
    split at hq
    · rwa [← Option.some.inj hq, hat]
    · exact h.updated hq
  received := h.received

theorem create (h : m.Orderly) (hnow : now.offset.isSome = true) {title workspace : String}
    {draft : Option Draft} (hfresh : m.Fresh title) :
    (m.create title workspace draft now).2.Orderly := by
  have hsound := h.sound.run now (.create title workspace draft) fun _ _ _ heq => by
    cases heq
    exact hfresh
  have hrecord (id : String) := record?_put (m := m)
    (n := (m.create title workspace draft now).2)
    (r := (m.create title workspace draft now).1) rfl id
  have hsubmissions (id : String) := submissionsOf_put (m := m)
    (n := (m.create title workspace draft now).2) rfl id
  refine ⟨hsound, fun {id s} hs => ?_, fun {id q} hq => ?_, fun {id s} hs => ?_⟩
  · rw [hsubmissions] at hs
    split at hs
    · cases hs
    · refine ⟨(h.owned hs).1, ?_⟩
      rw [hrecord]
      split
      · rfl
      · exact (h.owned hs).2
  · rw [hrecord] at hq
    split at hq
    · rw [← Option.some.inj hq]
      exact hnow
    · exact h.updated hq
  · rw [hsubmissions] at hs
    split at hs
    · cases hs
    · exact h.received hs

theorem addSubmission (h : m.Orderly) (hnow : now.offset.isSome = true) {id : String}
    {r : Record} (hr : m.record? id = some r) (answers : Answer.Answers) (trail : Trail) :
    (m.addSubmission id answers trail now).2.Orderly := by
  have hsubmissions (j : String) := submissionsOf_put (m := m)
    (n := (m.addSubmission id answers trail now).2) rfl j
  refine ⟨?_, fun {j s} hs => ?_, h.updated, fun {j s} hs => ?_⟩
  · exact ⟨h.sound.nodup, h.sound.keyed, h.sound.slugs⟩
  · rw [hsubmissions] at hs
    split at hs
    · next hj =>
      subst hj
      rcases List.mem_append.1 hs with hs | hs
      · exact h.owned hs
      · rw [List.mem_singleton.1 hs]
        exact ⟨rfl, Option.isSome_of_mem hr⟩
    · exact h.owned hs
  · rw [hsubmissions] at hs
    split at hs
    · rcases List.mem_append.1 hs with hs | hs
      · exact h.received hs
      · rw [List.mem_singleton.1 hs]
        exact hnow
    · exact h.received hs

theorem run (h : m.Orderly) (hnow : now.offset.isSome = true) {c : Call} (hdraws : m.Draws c) :
    (m.run now c).2.Orderly := by
  cases c with
  | create title workspace draft => exact h.create hnow hdraws
  | saveDraft id draft =>
    cases hr : m.record? id with
    | none => simpa [Memory.run, hr] using h
    | some r =>
      have := h.replace hnow hr { r with draft := draft, updatedAt := now } rfl rfl rfl
      simpa [Memory.run, hr] using this
  | publish id snapshot =>
    cases hr : m.record? id with
    | none => simpa [Memory.run, hr] using h
    | some r =>
      have := h.replace hnow hr { r with published := some snapshot, updatedAt := now } rfl rfl rfl
      simpa [Memory.run, hr] using this
  | addSubmission id answers trail =>
    cases hr : m.record? id with
    | none => simpa [Memory.run, hr] using h
    | some r => simpa [Memory.run, hr] using h.addSubmission hnow hr answers trail
  | submissions id limit =>
    cases hr : m.record? id with
    | none => simpa [Memory.run, hr] using h
    | some r => simpa [Memory.run, hr] using h
  | get id => exact h
  | bySlug slug => exact h
  | list workspace => exact h

end Orderly

end IntakeForms.Memory
