import IntakeForms.Value

/-!
The order of values of one kind.  Numbers of any type are one kind; texts, moments
with an offset, moments without one, and lists are others.  Values of two kinds
have no order, and neither have nulls, maps and foreign things.
-/

namespace IntakeForms.Value

/-- The place of a number: what is infinite stands beyond all others, and what is not a number
beyond that. -/
def place? : Value → Option (Int × Rat)
  | .bool b => some (0, if b then 1 else 0)
  | .int n => some (0, n)
  | .real x =>
    if x.isNaN then some (2, 0)
    else if x.isInfinite then some (if x.negative then -1 else 1, 0)
    else some (0, x.toRat)
  | _ => none

def orderOf {α : Type} [LT α] [DecidableLT α] (a b : α) : Ordering :=
  if a < b then .lt else if b < a then .gt else .eq

def placeOrder (a b : Int × Rat) : Ordering := (orderOf a.1 b.1).then (orderOf a.2 b.2)

def momentOrder? (s t : Timestamp) : Option Ordering :=
  if s.offset.isSome = t.offset.isSome then some (orderOf s.instant t.instant) else none

mutual

def order? : Value → Value → Option Ordering
  | .text a, .text b => some (orderOf a b)
  | .moment s, .moment t => momentOrder? s t
  | .list as, .list bs => itemsOrder? as bs
  | a, b => match a.place?, b.place? with
    | some p, some q => some (placeOrder p q)
    | _, _ => none

def itemsOrder? : List Value → List Value → Option Ordering
  | [], [] => some .eq
  | [], _ :: _ => some .lt
  | _ :: _, [] => some .gt
  | a :: as, b :: bs =>
    if same a b then itemsOrder? as bs
    else match order? a b with
      | some .eq => itemsOrder? as bs
      | o => o

end

def allOrdered (vs : List Value) : Bool :=
  vs.zipIdx.all fun (a, i) => (vs.drop (i + 1)).all fun b => (order? a b).isSome

def isZoned : Value → Bool
  | .moment t => t.offset.isSome
  | _ => false

def latestFirst? {α : Type} (key : α → Value) (items : List α) : Option (List α) :=
  if allOrdered (items.map key) then
    some (items.mergeSort fun a b => order? (key a) (key b) != some .lt)
  else none

def instant : Value → Int
  | .moment t => t.instant
  | _ => 0

theorem order?_of_zoned {u v : Value} (hu : u.isZoned = true) (hv : v.isZoned = true) :
    order? u v = some (orderOf u.instant v.instant) := by
  cases u with
  | moment s =>
    cases v with
    | moment t =>
      have hoffsets : s.offset.isSome = t.offset.isSome := Eq.trans hu (Eq.symm hv)
      rw [order?, momentOrder?, if_pos hoffsets]
      rfl
    | _ => cases hv
  | _ => cases hu

theorem orderOf_ne_lt_iff {a b : Int} : orderOf a b ≠ .lt ↔ b ≤ a := by
  unfold orderOf
  split
  · next h => simp [Int.not_le.2 h]
  · next h => split <;> simp [Int.not_lt.1 h]

theorem latestFirst?_of_zoned {α : Type} {key : α → Value} {items : List α}
    (h : ∀ a ∈ items, (key a).isZoned = true) :
    ∃ sorted, latestFirst? key items = some sorted ∧ sorted.Perm items ∧
      sorted.Pairwise fun a b => order? (key a) (key b) ≠ some .lt := by
  have hordered : allOrdered (items.map key) = true := by
    have hzoned : ∀ v ∈ items.map key, v.isZoned = true := by simpa using h
    rw [allOrdered, List.all_eq_true]
    rintro ⟨u, i⟩ hu
    rw [List.all_eq_true]
    intro v hv
    rw [order?_of_zoned (hzoned u (List.fst_mem_of_mem_zipIdx hu))
      (hzoned v (List.mem_of_mem_drop hv))]
    rfl
  have hlater : ∀ a ∈ items, ∀ b ∈ items,
      (order? (key a) (key b) != some .lt) = decide ((key b).instant ≤ (key a).instant) := by
    intro a ha b hb
    rw [order?_of_zoned (h a ha) (h b hb), Bool.eq_iff_iff, bne_iff_ne, decide_eq_true_iff,
      ← orderOf_ne_lt_iff, ne_eq, Option.some.injEq]
  have hsorted : items.mergeSort (fun a b => order? (key a) (key b) != some .lt) =
      items.mergeSort fun a b => (key b).instant ≤ (key a).instant := by
    simpa using List.map_mergeSort (f := id) hlater
  have hperm := List.mergeSort_perm items fun a b => order? (key a) (key b) != some .lt
  refine ⟨_, if_pos hordered, hperm, ?_⟩
  have hpairs : (items.mergeSort fun a b => (key b).instant ≤ (key a).instant).Pairwise fun a b =>
      decide ((key b).instant ≤ (key a).instant) = true := by
    refine List.pairwise_mergeSort ?_ ?_ items
    · intro a b c hab hbc
      exact decide_eq_true (Int.le_trans (of_decide_eq_true hbc) (of_decide_eq_true hab))
    · intro a b
      rcases Int.le_total (key b).instant (key a).instant with h | h <;> simp [h]
  rw [← hsorted] at hpairs
  refine hpairs.imp_of_mem fun ha hb hab => ?_
  exact bne_iff_ne.1 ((hlater _ (hperm.mem_iff.1 ha) _ (hperm.mem_iff.1 hb)).trans hab)

end IntakeForms.Value
