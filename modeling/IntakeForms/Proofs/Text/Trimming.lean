import IntakeForms.Text.Blank
import Mathlib.Data.List.Basic
import Mathlib.Data.List.TakeWhile

/-! Texts put together from trimmed parts and from runs of one class of characters: what is at
the ends of the whole, how far a run goes, and what is left of the whole once it is trimmed. -/

namespace IntakeForms

theorem mem_head?_of_isPrefix {s t : List Char} (h : s <+: t) {c : Char} (hc : c ∈ s.head?) :
    c ∈ t.head? := by
  obtain ⟨u, rfl⟩ := h
  rw [List.head?_append, Option.mem_def.1 hc, Option.some_or]
  exact rfl

theorem exists_cons_of_head? {s : List Char} {d : Char} (h : ¬∀ c ∈ s.head?, c ≠ d) :
    ∃ rest, s = d :: rest := by
  cases s with
  | nil => simp at h
  | cons c rest => exact ⟨rest, by simpa using h⟩

namespace Text

variable {p q : Char → Bool} {r s t u x y : List Char}

theorem takeWhile_append_of_head? (hr : ∀ c ∈ r, q c = true) (hu : ∀ c ∈ u.head?, q c = false) :
    (r ++ u).takeWhile q = r := by
  rw [List.takeWhile_append_of_pos hr]
  cases u with
  | nil => simp
  | cons c u => simp [hu c (by simp)]

theorem dropWhile_append_of_head? (hr : ∀ c ∈ r, q c = true) (hu : ∀ c ∈ u.head?, q c = false) :
    (r ++ u).dropWhile q = u := by
  rw [List.dropWhile_append_of_pos hr]
  exact trimStart_of_head hu

namespace Trimmed

theorem of_forall (h : ∀ c ∈ s, p c = false) : Trimmed p s where
  head c hc := h c (List.mem_of_mem_head? hc)
  last c hc := h c (List.mem_of_mem_getLast? hc)

theorem of_all (h : s.all (fun c => !p c) = true) : Trimmed p s :=
  of_forall fun c hc => by simpa using List.all_eq_true.1 h c hc

theorem mono (hs : Trimmed p s) (h : ∀ c, p c = false → q c = false) : Trimmed q s where
  head c hc := h c (hs.head c hc)
  last c hc := h c (hs.last c hc)

theorem append (hs : Trimmed p s) (ht : Trimmed p t) : Trimmed p (s ++ t) where
  head c hc := by
    rw [List.head?_append, Option.mem_def, Option.or_eq_some_iff] at hc
    exact hc.elim (hs.head c) fun h => ht.head c h.2
  last c hc := by
    rw [List.getLast?_append, Option.mem_def, Option.or_eq_some_iff] at hc
    exact hc.elim (ht.last c) fun h => hs.last c h.2

theorem enclose (hs : Trimmed p s) (hs' : s ≠ []) (ht : Trimmed p t) (ht' : t ≠ []) :
    Trimmed p (s ++ (u ++ t)) where
  head c hc := by
    obtain ⟨d, s, rfl⟩ := List.exists_cons_of_ne_nil hs'
    exact hs.head c hc
  last c hc := by
    rw [← List.append_assoc, List.getLast?_append_of_ne_nil _ ht'] at hc
    exact ht.last c hc

end Trimmed

theorem trimBy_append (hx : ∀ c ∈ x, q c = true) (hs : Trimmed q s) (hs' : s ≠ [])
    (hy : ∀ c ∈ y, q c = true) : trimBy q (x ++ (s ++ y)) = s := by
  have hstart : trimStart q (x ++ (s ++ y)) = s ++ y := by
    obtain ⟨c, s, rfl⟩ := List.exists_cons_of_ne_nil hs'
    exact dropWhile_append_of_head? hx hs.head
  have hend : trimStart q (y.reverse ++ s.reverse) = s.reverse :=
    dropWhile_append_of_head? (by simpa using hy) (by simpa [List.head?_reverse] using hs.last)
  rw [trimBy, hstart, trimEnd_eq, List.reverse_append, hend, List.reverse_reverse]

theorem exists_trimBy_append (q : Char → Bool) (s : List Char) :
    ∃ x y, (∀ c ∈ x, q c = true) ∧ (∀ c ∈ y, q c = true) ∧ s = x ++ (trimBy q s ++ y) := by
  have hend : trimBy q s ++ ((s.dropWhile q).reverse.takeWhile q).reverse = s.dropWhile q := by
    rw [trimBy, trimEnd, trimStart, ← List.reverse_append, List.takeWhile_append_dropWhile,
      List.reverse_reverse]
  refine ⟨s.takeWhile q, ((s.dropWhile q).reverse.takeWhile q).reverse,
    fun _ => List.mem_takeWhile_imp, fun c hc => List.mem_takeWhile_imp (List.mem_reverse.1 hc), ?_⟩
  rw [hend, List.takeWhile_append_dropWhile]

end Text

end IntakeForms
