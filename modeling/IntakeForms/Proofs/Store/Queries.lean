import IntakeForms.Store.Documents
import Mathlib.Data.List.Forall2
import Mathlib.Data.List.Perm.Basic

/-! What queries answer, as far as it is known of them.  Documents that have a moment in a field
come with the latest first, and the order of those of one moment is left open; where no two are of
one moment there is only one such order. -/

namespace IntakeForms

theorem exists_perm_of_map {α β : Type} {f : α → β} {items : List α} {images : List β}
    (h : images.Perm (items.map f)) : ∃ as : List α, as.Perm items ∧ images = as.map f := by
  have himages : List.Forall₂ (fun b a => b = f a) (items.map f) items := by
    rw [List.forall₂_map_left_iff, List.forall₂_same]
    exact fun _ _ => rfl
  obtain ⟨as, has, hperm⟩ := List.perm_comp_forall₂ h himages
  refine ⟨as, hperm, ?_⟩
  rwa [← List.forall₂_eq_eq_eq, List.forall₂_map_right_iff]

namespace Store

variable {α : Type} {moment : α → Timestamp} {items sorted : List α}

/-- The items with the latest first, those of one moment in any order. -/
structure IsLatestFirst (moment : α → Timestamp) (items sorted : List α) : Prop where
  perm : sorted.Perm items
  later : sorted.Pairwise fun a b => (moment b).instant ≤ (moment a).instant

theorem isLatestFirst_latestFirst (moment : α → Timestamp) (items : List α) :
    IsLatestFirst moment items (latestFirst moment items) :=
  ⟨perm_latestFirst moment items, latestFirst_sorted moment items⟩

namespace IsLatestFirst

theorem mem_iff (h : IsLatestFirst moment items sorted) {a : α} : a ∈ sorted ↔ a ∈ items :=
  h.perm.mem_iff

theorem eq_latestFirst (h : IsLatestFirst moment items sorted)
    (hmoments : ∀ a ∈ items, ∀ b ∈ items, (moment a).instant = (moment b).instant → a = b) :
    sorted = latestFirst moment items := by
  refine List.Perm.eq_of_pairwise (fun a b ha hb hab hba => ?_) h.later
    (latestFirst_sorted moment items) (h.perm.trans (perm_latestFirst moment items).symm)
  exact hmoments a (h.mem_iff.1 ha) b (mem_latestFirst.1 hb) (Int.le_antisymm hba hab)

theorem map {β : Type} {other : β → Timestamp} {f : α → β} (hf : ∀ a, other (f a) = moment a)
    (h : IsLatestFirst moment items sorted) :
    IsLatestFirst other (items.map f) (sorted.map f) where
  perm := h.perm.map f
  later := List.pairwise_map.2 (by simpa only [hf] using h.later)

end IsLatestFirst

end Store

namespace Queries

variable {q : Queries} {name text : String} {docs : Collection}

theorem find?_eq_head? : q.find? name text docs =
    (q.arrange (docs.filter fun d => Collection.fieldIs name text d.2)).head? := by
  have hcut (found : Collection) : q.cut 1 found = found.take 1 :=
    q.cut_take 1 found (Nat.le_refl 1)
  rw [find?, hcut, List.head?_take, if_neg Nat.one_ne_zero]

theorem mem_of_find? {d : String × Document} (h : q.find? name text docs = some d) :
    d ∈ docs ∧ Collection.fieldIs name text d.2 = true := by
  rw [find?_eq_head?] at h
  exact List.mem_filter.1 ((q.arrange_perm _).mem_iff.1 (List.mem_of_head? h))

theorem fieldIs_of_find?_eq_none (h : q.find? name text docs = none) :
    ∀ d ∈ docs, Collection.fieldIs name text d.2 = false := by
  have hperm := q.arrange_perm (docs.filter fun d => Collection.fieldIs name text d.2)
  rw [find?_eq_head?, List.head?_eq_none_iff] at h
  rw [h, List.nil_perm, List.filter_eq_nil_iff] at hperm
  intro d hd
  simpa using hperm d hd

theorem cut_of_pos (q : Queries) {limit : Int} (h : 1 ≤ limit) (docs : Collection) :
    q.cut limit docs = docs.take limit.toNat := by
  obtain ⟨n, rfl⟩ := Int.eq_ofNat_of_zero_le (Int.le_trans (by decide) h)
  exact q.cut_take n docs (Int.ofNat_le.1 h)

theorem latestBy_map {α : Type} (q : Queries) (items : List α) (doc : α → String × Document)
    {moment : α → Timestamp}
    (hget : ∀ a, Entries.get? name (doc a).2 = some (.moment (moment a)))
    (hzoned : ∀ a ∈ items, (moment a).offset.isSome = true) :
    ∃ sorted, Store.IsLatestFirst moment items sorted ∧
      q.latestBy name (items.map doc) = .ok (sorted.map doc) := by
  have hdated : Collection.dated name (items.map doc) =
      items.map fun a => (.moment (moment a), doc a) := by
    rw [Collection.dated, List.filterMap_map, ← List.filterMap_eq_map]
    refine List.filterMap_congr fun a _ => ?_
    simp [hget a]
  have hpairs : ∀ e ∈ Collection.dated name (items.map doc), e.1.isZoned = true := by
    rw [hdated]
    exact List.forall_mem_map.2 hzoned
  obtain ⟨pairs, hlatest, hperm, hlater⟩ := q.latest_perm _ hpairs
  rw [hdated] at hperm
  obtain ⟨sorted, hsorted, rfl⟩ := exists_perm_of_map hperm
  refine ⟨sorted, ⟨hsorted, ?_⟩, ?_⟩
  · refine (List.pairwise_map.1 hlater).imp_of_mem fun {a b} ha hb hab => ?_
    have ha : (Value.moment (moment a)).isZoned = true := hzoned a (hsorted.mem_iff.1 ha)
    have hb : (Value.moment (moment b)).isZoned = true := hzoned b (hsorted.mem_iff.1 hb)
    rw [Value.order?_of_zoned ha hb, ne_eq, Option.some.injEq] at hab
    exact Value.orderOf_ne_lt_iff.1 hab
  · rw [latestBy, hlatest, Except.map, List.map_map]
    rfl

end Queries

end IntakeForms
