/-!
Ordered maps as lists of pairs.  A key keeps the place of its first arrival and
the value of its last; a list with distinct keys is its own map.
-/

namespace IntakeForms.Entries

variable {κ ν : Type} [DecidableEq κ]

def keys (es : List (κ × ν)) : List κ := es.map Prod.fst

def get? (k : κ) : List (κ × ν) → Option ν
  | [] => none
  | (k', v) :: rest => if k' = k then some v else get? k rest

def put (k : κ) (v : ν) : List (κ × ν) → List (κ × ν)
  | [] => [(k, v)]
  | (k', v') :: rest => if k' = k then (k', v) :: rest else (k', v') :: put k v rest

def putAll (es : List (κ × ν)) : List (κ × ν) → List (κ × ν)
  | [] => es
  | (k, v) :: rest => putAll (put k v es) rest

def ofList (es : List (κ × ν)) : List (κ × ν) := putAll [] es

theorem mem_of_get? {k : κ} {v : ν} {es : List (κ × ν)} (h : get? k es = some v) :
    (k, v) ∈ es := by
  induction es with
  | nil => simp [get?] at h
  | cons e rest ih =>
    obtain ⟨k', v'⟩ := e
    by_cases hk : k' = k
    · simp only [get?, hk, if_true, Option.some.injEq] at h
      simp [hk, h]
    · simp only [get?, hk, if_false] at h
      exact List.mem_cons_of_mem _ (ih h)

theorem get?_of_mem {k : κ} {v : ν} {es : List (κ × ν)} (hn : (keys es).Nodup)
    (h : (k, v) ∈ es) : get? k es = some v := by
  induction es with
  | nil => simp at h
  | cons e rest ih =>
    obtain ⟨k', v'⟩ := e
    simp only [keys, List.map_cons, List.nodup_cons, List.mem_map] at hn
    rcases List.mem_cons.1 h with h | h
    · obtain ⟨rfl, rfl⟩ := Prod.mk.inj h
      simp [get?]
    · have hk : k' ≠ k := by
        rintro rfl
        exact hn.1 ⟨(k', v), h, rfl⟩
      simp only [get?, hk, if_false]
      exact ih hn.2 h

theorem get?_eq_none_iff {k : κ} {es : List (κ × ν)} : get? k es = none ↔ k ∉ keys es := by
  induction es with
  | nil => simp [get?, keys]
  | cons e rest ih =>
    obtain ⟨k', v⟩ := e
    by_cases h : k' = k
    · simp [get?, keys, h]
    · have hk : ¬ k = k' := fun e => h e.symm
      simpa [get?, keys, h, hk] using ih

theorem get?_map {μ : Type} (f : ν → μ) (k : κ) (es : List (κ × ν)) :
    get? k (es.map fun e => (e.1, f e.2)) = (get? k es).map f := by
  induction es with
  | nil => rfl
  | cons e rest ih =>
    by_cases h : e.1 = k
    · simp [get?, h]
    · simpa [get?, h] using ih

theorem get?_append (k : κ) (es fs : List (κ × ν)) :
    get? k (es ++ fs) = (get? k es).or (get? k fs) := by
  induction es with
  | nil => rfl
  | cons e rest ih =>
    by_cases h : e.1 = k
    · simp [get?, h]
    · simpa [get?, h] using ih

theorem get?_filter {es : List (κ × ν)} (hn : (keys es).Nodup) (p : ν → Bool) (k : κ) :
    get? k (es.filter fun e => p e.2) = (get? k es).filter p := by
  induction es with
  | nil => rfl
  | cons e rest ih =>
    obtain ⟨k', v⟩ := e
    simp only [keys, List.map_cons, List.nodup_cons, List.mem_map] at hn
    by_cases hk : k' = k
    · subst hk
      by_cases hv : p v = true
      · simp [get?, Option.filter, hv]
      · -- The entry goes, and no other one has its key.
        have hnone : get? k' rest = none := by
          cases hget : get? k' rest with
          | none => rfl
          | some w => exact absurd ⟨(k', w), mem_of_get? hget, rfl⟩ hn.1
        rw [List.filter_cons_of_neg (by simpa using hv), ih hn.2, hnone]
        simp [get?, Option.filter, hv]
    · by_cases hv : p v = true
      · simpa [get?, hk, hv] using ih hn.2
      · simpa [get?, hk, hv] using ih hn.2

theorem get?_put (k j : κ) (v : ν) (es : List (κ × ν)) :
    get? j (put k v es) = if k = j then some v else get? j es := by
  induction es with
  | nil => simp [put, get?]
  | cons e rest ih =>
    obtain ⟨k', v'⟩ := e
    by_cases h : k' = k
    · subst h
      by_cases hj : k' = j <;> simp [put, get?, hj]
    · by_cases hj : k' = j
      · subst hj
        have hk : ¬ k = k' := fun e => h e.symm
        simp [put, get?, h, hk]
      · simp [put, get?, h, hj, ih]

theorem put_map {μ : Type} (f : ν → μ) (k : κ) (v : ν) (es : List (κ × ν)) :
    put k (f v) (es.map fun e => (e.1, f e.2)) = (put k v es).map fun e => (e.1, f e.2) := by
  induction es with
  | nil => rfl
  | cons e rest ih =>
    by_cases h : e.1 = k
    · simp [put, h]
    · simp [put, h, ih]

theorem put_of_get? {k : κ} {v : ν} {es : List (κ × ν)} (h : get? k es = some v) :
    put k v es = es := by
  induction es with
  | nil => simp [get?] at h
  | cons e rest ih =>
    obtain ⟨k', v'⟩ := e
    by_cases hk : k' = k
    · simp only [get?, hk, if_true, Option.some.injEq] at h
      simp [put, hk, h]
    · simp only [get?, hk, if_false] at h
      simp [put, hk, ih h]

theorem keys_put (k : κ) (v : ν) (es : List (κ × ν)) :
    keys (put k v es) = if k ∈ keys es then keys es else keys es ++ [k] := by
  induction es with
  | nil => simp [put, keys]
  | cons e rest ih =>
    obtain ⟨k', v'⟩ := e
    by_cases h : k' = k
    · subst h; simp [put, keys]
    · have hk : ¬ k = k' := fun e => h e.symm
      have ih' : List.map Prod.fst (put k v rest) =
          if k ∈ List.map Prod.fst rest then List.map Prod.fst rest
          else List.map Prod.fst rest ++ [k] := ih
      by_cases hm : k ∈ List.map Prod.fst rest <;> simp [put, keys, h, hk, ih', hm]

theorem mem_put {k : κ} {v : ν} {es : List (κ × ν)} {e : κ × ν} (h : e ∈ put k v es) :
    e = (k, v) ∨ e ∈ es := by
  induction es with
  | nil => simpa [put] using h
  | cons f rest ih =>
    obtain ⟨k', v'⟩ := f
    by_cases hk : k' = k
    · simp only [put, hk, if_true, List.mem_cons] at h
      rcases h with h | h
      · exact .inl h
      · exact .inr (List.mem_cons_of_mem _ h)
    · simp only [put, hk, if_false, List.mem_cons] at h
      rcases h with h | h
      · exact .inr (h ▸ List.mem_cons_self)
      · exact (ih h).imp_right (List.mem_cons_of_mem _)

theorem length_put_le (k : κ) (v : ν) (es : List (κ × ν)) :
    (put k v es).length ≤ es.length + 1 := by
  induction es with
  | nil => simp [put]
  | cons e rest ih =>
    obtain ⟨k', v'⟩ := e
    by_cases hk : k' = k <;> simp [put, hk, ih]

theorem length_put_of_get? {k : κ} {w : ν} {es : List (κ × ν)} (h : get? k es = some w) (v : ν) :
    (put k v es).length = es.length := by
  have hk : k ∈ keys es := List.mem_map_of_mem (mem_of_get? h)
  have hkeys := keys_put k v es
  rw [if_pos hk] at hkeys
  simpa [keys] using congrArg List.length hkeys

theorem keys_put_nodup {k : κ} {v : ν} {es : List (κ × ν)} (h : (keys es).Nodup) :
    (keys (put k v es)).Nodup := by
  rw [keys_put]
  split
  · exact h
  · next hk =>
    rw [List.nodup_append]
    exact ⟨h, by simp, fun a ha b hb => by
      have : b = k := by simpa using hb
      subst this; exact fun hab => hk (hab ▸ ha)⟩

theorem put_of_not_mem {k : κ} {v : ν} {es : List (κ × ν)} (h : k ∉ keys es) :
    put k v es = es ++ [(k, v)] := by
  induction es with
  | nil => rfl
  | cons e rest ih =>
    obtain ⟨k', v'⟩ := e
    simp only [keys, List.map_cons, List.mem_cons, not_or] at h
    have hk : ¬ k' = k := fun e => h.1 e.symm
    simp [put, hk, ih h.2]

theorem putAll_append (es fs gs : List (κ × ν)) :
    putAll es (fs ++ gs) = putAll (putAll es fs) gs := by
  induction fs generalizing es with
  | nil => rfl
  | cons f rest ih => exact ih _

theorem get?_putAll {es fs : List (κ × ν)} (hn : (keys fs).Nodup) (k : κ) :
    get? k (putAll es fs) = (get? k fs).or (get? k es) := by
  induction fs generalizing es with
  | nil => rfl
  | cons f rest ih =>
    obtain ⟨k', v⟩ := f
    have hkeys : k' ∉ keys rest ∧ (keys rest).Nodup := List.nodup_cons.1 hn
    rw [putAll, ih hkeys.2, get?_put]
    by_cases h : k' = k
    · subst h
      simp [get?, get?_eq_none_iff.2 hkeys.1]
    · simp [get?, h]

theorem putAll_of_nodup {es fs : List (κ × ν)} (h : (keys (es ++ fs)).Nodup) :
    putAll es fs = es ++ fs := by
  induction fs generalizing es with
  | nil => simp [putAll]
  | cons f rest ih =>
    obtain ⟨k, v⟩ := f
    have hk : k ∉ keys es := by
      intro hm
      simp only [keys, List.map_append, List.map_cons, List.nodup_append] at h
      exact h.2.2 k hm k (by simp) rfl
    rw [putAll, put_of_not_mem hk, ih (by simpa using h)]
    simp

theorem ofList_of_nodup {es : List (κ × ν)} (h : (keys es).Nodup) : ofList es = es := by
  have h' : (keys ([] ++ es)).Nodup := by simpa using h
  simpa [ofList] using putAll_of_nodup h'

theorem keys_putAll_nodup {es fs : List (κ × ν)} (h : (keys es).Nodup) :
    (keys (putAll es fs)).Nodup := by
  induction fs generalizing es with
  | nil => exact h
  | cons f rest ih => exact ih (keys_put_nodup h)

theorem keys_ofList_nodup (es : List (κ × ν)) : (keys (ofList es)).Nodup :=
  keys_putAll_nodup (by simp [keys])

theorem mem_putAll {es fs : List (κ × ν)} {e : κ × ν} (h : e ∈ putAll es fs) :
    e ∈ es ∨ e ∈ fs := by
  induction fs generalizing es with
  | nil => exact .inl h
  | cons f rest ih =>
    rcases ih h with h | h
    · rcases mem_put h with h | h
      · exact .inr (h ▸ List.mem_cons_self)
      · exact .inl h
    · exact .inr (List.mem_cons_of_mem _ h)

theorem mem_of_mem_ofList {es : List (κ × ν)} {e : κ × ν} (h : e ∈ ofList es) : e ∈ es :=
  (mem_putAll h).resolve_left (by simp)

theorem length_putAll_le (es fs : List (κ × ν)) :
    (putAll es fs).length ≤ es.length + fs.length := by
  induction fs generalizing es with
  | nil => simp [putAll]
  | cons f rest ih =>
    calc (putAll es (f :: rest)).length ≤ (put f.1 f.2 es).length + rest.length := ih _
      _ ≤ es.length + 1 + rest.length := Nat.add_le_add_right (length_put_le ..) _
      _ = es.length + (f :: rest).length := by simp +arith

theorem length_ofList_le (es : List (κ × ν)) : (ofList es).length ≤ es.length := by
  simpa [ofList] using length_putAll_le [] es

end IntakeForms.Entries
