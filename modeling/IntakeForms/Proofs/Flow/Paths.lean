import IntakeForms.Proofs.Flow.WayOut

/-! When two ways to go on make one path.  A walk takes what is left and stops where
nothing new follows; another walk from the same section is the same as long as it keeps
to the path, and at its end it may turn back instead of stopping. -/

namespace IntakeForms.Flow

variable {f g : String → Option String} {left : List String} {id : String}

theorem walk_of_mem (h : id ∈ left) :
    walk f left id = id :: (f id).elim [] (walk f (left.erase id)) := by
  rw [walk, if_pos h]
  cases f id <;> rfl

theorem walk_eq_nil_iff : walk f left id = [] ↔ id ∉ left := by
  by_cases h : id ∈ left
  · simp [walk_of_mem h, h]
  · rw [walk, if_neg h]
    simp [h]

theorem walk_eq_singleton_iff (hn : left.Nodup) (h : id ∈ left) :
    walk g left id = [id] ↔ ∀ t ∈ g id, t ∈ left → t = id := by
  rw [walk_of_mem h]
  cases g id with
  | none => simp
  | some t => simp [walk_eq_nil_iff, hn.mem_erase_iff, not_imp_not]

def Keeps (f g : String → Option String) (left path : List String) : Prop :=
  ∀ x ∈ path, g x = f x ∨ path.getLast? = some x ∧ ∀ t ∈ g x, t ∈ left → t ∈ path

theorem keeps_singleton_iff (hn : left.Nodup) (h : id ∈ left) (hf : walk f left id = [id]) :
    Keeps f g left [id] ↔ walk g left id = [id] := by
  have hfid := (walk_eq_singleton_iff hn h).1 hf
  rw [walk_eq_singleton_iff hn h]
  simp only [Keeps, List.mem_singleton, forall_eq, List.getLast?_singleton, true_and]
  constructor
  · rintro (heq | hg)
    · rwa [heq]
    · exact hg
  · exact .inr

theorem keeps_cons_iff (hn : left.Nodup) {path : List String} (hpath : path ≠ [])
    (hid : id ∉ path) :
    Keeps f g left (id :: path) ↔ g id = f id ∧ Keeps f g (left.erase id) path := by
  obtain ⟨y, hy⟩ := Option.isSome_iff_exists.1 (List.getLast?_isSome.2 hpath)
  have hlast : (id :: path).getLast? = path.getLast? := by
    rw [List.getLast?_cons, hy]
    rfl
  have hne : path.getLast? ≠ some id := fun h => hid (List.mem_of_getLast? h)
  simp only [Keeps, List.forall_mem_cons, hlast, hne, false_and, or_false]
  refine and_congr_right fun _ => forall₂_congr fun x _ => or_congr_right (and_congr_right fun _ =>
    forall₂_congr fun t _ => ?_)
  rw [hn.mem_erase_iff, List.mem_cons]
  tauto

theorem elim_walk_eq_iff {o : Option String} (h : id ∈ left) :
    o.elim [] (walk g left) = walk f left id ↔ o = some id ∧ walk g left id = walk f left id := by
  have hne : walk f left id ≠ [] := fun hnil => walk_eq_nil_iff.1 hnil h
  constructor
  · intro heq
    cases o with
    | none => exact absurd heq.symm hne
    | some t =>
      rw [Option.elim_some] at heq
      have ht : t ∈ left := by
        by_contra hnot
        rw [walk_eq_nil_iff.2 hnot] at heq
        exact hne heq.symm
      have hhead := congrArg List.head? heq
      rw [walk_of_mem ht, walk_of_mem h] at hhead
      obtain rfl : t = id := by simpa using hhead
      exact ⟨rfl, heq⟩
  · rintro ⟨rfl, heq⟩
    exact heq

theorem walk_eq_iff (hn : left.Nodup) :
    walk g left id = walk f left id ↔ Keeps f g left (walk f left id) := by
  fun_induction walk f left id with
  | case1 left id h hf =>
    exact (keeps_singleton_iff hn h (by simp [walk_of_mem h, hf])).symm
  | case2 left id h n hf ih =>
    by_cases hnext : n ∈ left.erase id
    · have hne : walk f (left.erase id) n ≠ [] := fun hnil => walk_eq_nil_iff.1 hnil hnext
      have hid : id ∉ walk f (left.erase id) n := fun hmem =>
        (hn.mem_erase_iff.1 (walk_subset f _ n id hmem)).1 rfl
      rw [keeps_cons_iff hn hne hid, ← ih (hn.erase id), hf, ← elim_walk_eq_iff hnext,
        walk_of_mem h, List.cons.injEq]
      exact and_iff_right rfl
    · have hnil : walk f (left.erase id) n = [] := walk_eq_nil_iff.2 hnext
      rw [hnil]
      exact (keeps_singleton_iff hn h (by simp [walk_of_mem h, hf, hnil])).symm
  | case3 left id h =>
    simp [walk_eq_nil_iff.2 h, Keeps]

variable {policy : Policy} {sections : List Section} {answers : Answer.Answers}

theorem Publishable.resolveAt_closed (h : Publishable policy sections) :
    ∀ x ∈ sections.map Section.id, ∀ t ∈ resolveAt sections answers x,
      t ∈ sections.map Section.id := by
  intro x hx t ht
  obtain ⟨sec, hsec, rfl⟩ := List.mem_map.1 hx
  rw [resolveAt_id h.sectionIds hsec] at ht
  exact List.mem_map.2 (h.target_of_resolveNext hsec ht)

theorem tracePath_subset (answers : Answer.Answers) :
    ∀ x ∈ tracePath sections answers none, x ∈ sections.map Section.id := by
  cases sections with
  | nil => simp [tracePath]
  | cons first rest => exact fun x hx => mem_distinct.1 (walk_subset _ _ _ x hx)

theorem nodup_tracePath (answers : Answer.Answers) : (tracePath sections answers none).Nodup := by
  cases sections with
  | nil => exact List.nodup_nil
  | cons first rest => exact nodup_walk _ (nodup_distinct _) _

theorem tracePath_eq_iff (given other : Answer.Answers) :
    tracePath sections other none = tracePath sections given none ↔
      Keeps (resolveAt sections given) (resolveAt sections other)
        (distinct (sections.map Section.id)) (tracePath sections given none) := by
  cases sections with
  | nil => simp [tracePath, Keeps]
  | cons first rest => exact walk_eq_iff (nodup_distinct _)

end IntakeForms.Flow
