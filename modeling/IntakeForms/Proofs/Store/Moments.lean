import IntakeForms.Proofs.Store.Keeping

/-! Moments in memory.  Where every call comes later than the one before it, no two records were
changed at one moment and no two submissions to a form came at one, so that there is only one order
in which they can be listed with the latest first. -/

namespace IntakeForms.Memory

/-- No two records were changed at one moment, and no two submissions to a form came at one. -/
structure Distinct (m : Memory) : Prop where
  updated : ∀ r ∈ m.all, ∀ q ∈ m.all, r.updatedAt.instant = q.updatedAt.instant → r = q
  received : ∀ id, ∀ s ∈ m.submissionsOf id, ∀ t ∈ m.submissionsOf id,
    s.createdAt.instant = t.createdAt.instant → s = t

/-- Everything that is held is from before the moment. -/
structure Before (m : Memory) (now : Timestamp) : Prop where
  updated : ∀ r ∈ m.all, r.updatedAt.instant < now.instant
  received : ∀ id, ∀ s ∈ m.submissionsOf id, s.createdAt.instant < now.instant

variable {m : Memory} {now : Timestamp} {c : Call}

theorem Distinct.empty (hrecords : m.records = []) (hsubmissions : m.submissions = []) :
    m.Distinct where
  updated r hr := by simp [all, hrecords] at hr
  received id s hs := by simp [submissionsOf, hsubmissions, Entries.get?] at hs

theorem Before.empty (hrecords : m.records = []) (hsubmissions : m.submissions = [])
    (now : Timestamp) : m.Before now where
  updated r hr := by simp [all, hrecords] at hr
  received id s hs := by simp [submissionsOf, hsubmissions, Entries.get?] at hs

theorem updatedAt_of_new (now : Timestamp) (c : Call) :
    ∀ r ∈ (m.run now c).2.all, r ∈ m.all ∨ r.updatedAt = now :=
  forall_run (P := fun r => r ∈ m.all ∨ r.updatedAt = now) (fun _ hr => .inl hr)
    (fun _ _ _ _ _ _ => .inr rfl) (fun _ _ _ _ _ => .inr rfl) fun _ _ _ _ _ => .inr rfl

theorem eq_of_new {r q : Record} (hr : r ∈ (m.run now c).2.all) (hq : q ∈ (m.run now c).2.all)
    (hrnew : r ∉ m.all) (hqnew : q ∉ m.all) : r = q := by
  -- a call puts at most one record
  have hput {id : String} {x : Record} (hn : (m.run now c).2.records = Entries.put id x m.records) :
      r = q := by
    have hone : ∀ p ∈ (m.run now c).2.all, p ∈ m.all ∨ p = x := by
      rw [all, hn]
      exact forall_put (P := fun p => p ∈ m.all ∨ p = x) (fun _ hp => .inl hp) (.inr rfl)
    rw [(hone r hr).resolve_left hrnew, (hone q hq).resolve_left hqnew]
  cases rewrite_run now c m with
  | kept _ hn =>
    rw [all, hn] at hr
    exact absurd hr hrnew
  | created _ _ _ hn => exact hput hn
  | drafted _ hn => exact hput hn
  | published _ hn => exact hput hn

theorem mem_submissionsOf_run (m : Memory) (now : Timestamp) (c : Call) (id : String) :
    ∃ new : Submission, new.createdAt = now ∧
      ∀ s ∈ (m.run now c).2.submissionsOf id, s ∈ m.submissionsOf id ∨ s = new := by
  by_cases hc : c.Brings
  · cases c with
    | addSubmission key answers trail =>
      refine ⟨⟨(Ids.newId "sub" m.ids).1, key, answers, trail, now⟩, rfl, fun s hs => ?_⟩
      cases hr : m.record? key with
      | none => exact .inl (by simpa [run, hr] using hs)
      | some r =>
        simp only [run, hr] at hs
        rw [submissionsOf_put (m := m) (n := (m.addSubmission key answers trail now).2) rfl] at hs
        split at hs
        · next hkey =>
          subst hkey
          rcases List.mem_append.1 hs with hs | hs
          · exact .inl hs
          · exact .inr (List.mem_singleton.1 hs)
        · exact .inl hs
    | _ => exact hc.elim
  · exact ⟨⟨"", "", [], {}, now⟩, rfl, fun s hs => .inl (submissionsOf_subset hc id hs)⟩

theorem Distinct.run (h : m.Distinct) (hbefore : m.Before now) (c : Call) :
    (m.run now c).2.Distinct where
  updated := by
    have hnow {r q : Record} (hr : r.updatedAt = now) (hq : q ∈ m.all) :
        r.updatedAt.instant ≠ q.updatedAt.instant :=
      hr ▸ (hbefore.updated q hq).ne'
    intro r hr q hq heq
    by_cases hrold : r ∈ m.all
    · by_cases hqold : q ∈ m.all
      · exact h.updated r hrold q hqold heq
      · exact absurd heq.symm (hnow ((updatedAt_of_new now c q hq).resolve_left hqold) hrold)
    · by_cases hqold : q ∈ m.all
      · exact absurd heq (hnow ((updatedAt_of_new now c r hr).resolve_left hrold) hqold)
      · exact eq_of_new hr hq hrold hqold
  received := by
    intro id s hs t ht heq
    obtain ⟨new, hnew, hone⟩ := mem_submissionsOf_run m now c id
    rcases hone s hs with hsold | rfl
    · rcases hone t ht with htold | rfl
      · exact h.received id s hsold t htold heq
      · exact absurd (hnew ▸ heq) (hbefore.received id s hsold).ne
    · rcases hone t ht with htold | rfl
      · exact absurd (hnew ▸ heq) (hbefore.received id t htold).ne'
      · rfl

theorem Before.run (h : m.Before now) (c : Call) {later : Timestamp}
    (hlater : now.instant < later.instant) : (m.run now c).2.Before later where
  updated := by
    intro r hr
    rcases updatedAt_of_new now c r hr with hold | hnew
    · exact (h.updated r hold).trans hlater
    · exact hnew ▸ hlater
  received := by
    intro id s hs
    obtain ⟨new, hnew, hone⟩ := mem_submissionsOf_run m now c id
    rcases hone s hs with hold | rfl
    · exact (h.received id s hold).trans hlater
    · exact hnew ▸ hlater

end IntakeForms.Memory
