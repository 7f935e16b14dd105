import IntakeForms.Proofs.Flow.Search
import Mathlib.Data.List.Nodup
import Mathlib.Data.List.Perm.Subperm

/-! The search for what can be complete, turn by turn.  A turn takes a node that is in line and
finds what leads to it and is new; which of them it takes and the order of what it finds are left
open.  However that is settled, and however the keys, the targets and the open ends are arranged,
the turns end, one for each node that is found, and what is found are the nodes from which a path
leads to where the flow can be complete. -/

namespace IntakeForms.Flow.Graph

open Relation

variable {g g' : Graph} {openEnded start : List String}

/-- The nodes in line to be followed, and all that have been found. -/
structure Sweep where
  line : List String
  found : List String

/-- One node in line is followed against the edges. -/
inductive Turn (g : Graph) : Sweep → Sweep → Prop
  | follow {before n after found new} : new.Nodup → (∀ x, x ∈ new ↔ g.Edge x n ∧ x ∉ found) →
      Turn g ⟨before ++ n :: after, found⟩ ⟨before ++ after ++ new, found ++ new⟩

/-- So many turns, one after the other. -/
inductive Turns (g : Graph) : Nat → Sweep → Sweep → Prop
  | stay {s} : Turns g 0 s s
  | turn {n s t u} : Turn g s t → Turns g n t u → Turns g (n + 1) s u

/-- Two maps with the same keys, and under each the same targets, in any order. -/
structure Rearranged (g g' : Graph) : Prop where
  nodes : g.nodes.Perm g'.nodes
  targets : ∀ n, (g.targets n).Perm (g'.targets n)

/-- What holds after so many turns from `start`: each has taken one node from the line, and a node
that is no longer in line has all that leads to it among what is found. -/
structure Swept (g : Graph) (start : List String) (turns : Nat) (s : Sweep) : Prop where
  nodup : s.found.Nodup
  named : s.found ⊆ g.nodes
  started : start ⊆ s.found
  count : turns + s.line.length = s.found.length
  traced : ∀ x ∈ s.found, ∃ f ∈ start, g.Path x f
  waiting : s.line ⊆ s.found
  followed : ∀ {a b}, g.Edge a b → b ∈ s.found → b ∈ s.line ∨ a ∈ s.found

theorem swept_start (hn : start.Nodup) (hnamed : start ⊆ g.nodes) :
    Swept g start 0 ⟨start, start⟩ where
  nodup := hn
  named := hnamed
  started := List.Subset.refl start
  count := by simp
  traced x hx := ⟨x, hx, .refl⟩
  waiting := List.Subset.refl start
  followed _ hb := .inl hb

theorem Swept.turn {turns : Nat} {s t : Sweep} (swept : Swept g start turns s)
    (turn : Turn g s t) : Swept g start (turns + 1) t := by
  cases turn with
  | @follow before n after found new hn hnew =>
    have hfound : n ∈ found := swept.waiting (by simp)
    refine ⟨?nodup, ?named, ?started, ?count, ?traced, ?waiting, ?followed⟩
    case nodup =>
      exact swept.nodup.append hn fun x hx hxnew => ((hnew x).1 hxnew).2 hx
    case named =>
      exact List.append_subset.2 ⟨swept.named, fun x hx => ((hnew x).1 hx).1.mem_nodes⟩
    case started => exact fun x hx => List.mem_append_left _ (swept.started hx)
    case count =>
      have := swept.count
      simp only [List.length_append, List.length_cons] at this ⊢
      omega
    case traced =>
      refine List.forall_mem_append.2 ⟨swept.traced, fun x hx => ?_⟩
      obtain ⟨f, hf, path⟩ := swept.traced n hfound
      exact ⟨f, hf, .head ((hnew x).1 hx).1 path⟩
    case waiting =>
      refine List.append_subset.2 ⟨fun x hx => ?_, fun x hx => List.mem_append_right _ hx⟩
      refine List.mem_append_left _ (swept.waiting ?_)
      rcases List.mem_append.1 hx with hx | hx <;> simp [hx]
    case followed =>
      intro a b edge hb
      simp only [List.mem_append] at hb ⊢
      rcases hb with hb | hb
      · have := swept.followed edge hb
        simp only [List.mem_append, List.mem_cons] at this
        by_cases ha : a ∈ found
        · exact .inr (.inl ha)
        · -- What leads to the node that is taken is new unless it was found before.
          rcases this with (hbefore | rfl | hafter) | hfound
          · exact .inl (.inl (.inl hbefore))
          · exact .inr (.inr ((hnew a).2 ⟨edge, ha⟩))
          · exact .inl (.inl (.inr hafter))
          · exact absurd hfound ha
      · exact .inl (.inr hb)

theorem Swept.turns {k n : Nat} {s t : Sweep} (swept : Swept g start k s)
    (turns : Turns g n s t) : Swept g start (k + n) t := by
  induction turns generalizing k with
  | stay => exact swept
  | @turn n _ _ _ turn _ ih =>
    have := ih (swept.turn turn)
    rwa [Nat.add_assoc, Nat.add_comm 1 n] at this

theorem Swept.mem_found_iff {n : Nat} {s : Sweep} (swept : Swept g start n s)
    (hline : s.line = []) {x : String} : x ∈ s.found ↔ ∃ f ∈ start, g.Path x f := by
  refine ⟨swept.traced x, ?_⟩
  rintro ⟨f, hf, path⟩
  induction path using ReflTransGen.head_induction_on with
  | refl => exact swept.started hf
  | head edge _ ih => exact (swept.followed edge ih).resolve_left (by simp [hline])

theorem nodup_fresh (proper : g.Proper) (seen : List String) (n : String) :
    (fresh g.sources g.nodes seen n).Nodup := proper.nodup.filter _

theorem mem_fresh_sources_iff (proper : g.Proper) {seen : List String} {n x : String} :
    x ∈ fresh g.sources g.nodes seen n ↔ g.Edge x n ∧ x ∉ seen := by
  rw [mem_fresh, mem_sources_iff proper]
  exact ⟨fun h => h.2, fun h => ⟨h.1.mem_nodes, h⟩⟩

theorem turn_front (proper : g.Proper) (n : String) (rest found : List String) :
    Turn g ⟨n :: rest, found⟩ ⟨rest ++ fresh g.sources g.nodes found n,
      found ++ fresh g.sources g.nodes found n⟩ := by
  have front : Turn g ⟨[] ++ n :: rest, found⟩ _ :=
    .follow (nodup_fresh proper found n) fun x => mem_fresh_sources_iff proper
  exact front

theorem exists_turn (proper : g.Proper) {s : Sweep} (hline : s.line ≠ []) : ∃ t, Turn g s t := by
  obtain ⟨_ | ⟨n, rest⟩, found⟩ := s
  · exact absurd rfl hline
  · exact ⟨_, turn_front proper n rest found⟩

theorem turns_closure (proper : g.Proper) (todo seen : List String) :
    ∃ n, Turns g n ⟨todo, seen⟩ ⟨[], closure g.sources g.nodes todo seen⟩ := by
  fun_induction closure g.sources g.nodes todo seen with
  | case1 seen => exact ⟨0, .stay⟩
  | case2 seen n rest ih =>
    obtain ⟨k, turns⟩ := ih
    exact ⟨k + 1, .turn (turn_front proper n rest seen) turns⟩

theorem finals_subset : g.finals openEnded ⊆ g.nodes := fun _ hx => List.mem_of_mem_filter hx

theorem swept_of_perm (proper : g.Proper) (perm : start.Perm (g.finals openEnded)) {n : Nat}
    {s : Sweep} (turns : Turns g n ⟨start, start⟩ s) : Swept g start n s := by
  have hn : start.Nodup := perm.nodup_iff.2 (proper.nodup.filter _)
  have := (swept_start hn (List.Subset.trans perm.subset finals_subset)).turns turns
  rwa [Nat.zero_add] at this

theorem turns_canFinish (proper : g.Proper) : Turns g (g.canFinish openEnded).length
    ⟨g.finals openEnded, g.finals openEnded⟩ ⟨[], g.canFinish openEnded⟩ := by
  obtain ⟨n, turns⟩ := turns_closure proper (g.finals openEnded) (g.finals openEnded)
  have count : n + 0 = (g.canFinish openEnded).length := (swept_of_perm proper (.refl _) turns).count
  exact count ▸ turns

theorem nodup_canFinish (proper : g.Proper) : (g.canFinish openEnded).Nodup :=
  (swept_of_perm proper (.refl _) (turns_canFinish proper)).nodup

theorem mem_canFinish_iff_path (proper : g.Proper) {x : String} :
    x ∈ g.canFinish openEnded ↔
      x ∈ g.nodes ∧ ∃ f, g.Path x f ∧ (g.targets f = [] ∨ f ∈ openEnded) := by
  constructor
  · intro hx
    obtain ⟨f, hf, path⟩ := (mem_canFinish_iff proper).1 hx
    exact ⟨mem_nodes_of_mem_canFinish proper hx, f, path,
      by simpa [finals] using (List.mem_filter.1 hf).2⟩
  · rintro ⟨hx, f, path, hf⟩
    refine (mem_canFinish_iff proper).2 ⟨f, List.mem_filter.2 ⟨?_, by simpa using hf⟩, path⟩
    exact proper.path_mem_nodes hx path

theorem Rearranged.edge_eq (same : Rearranged g g') : g.Edge = g'.Edge := by
  funext a b
  exact propext (same.targets a).mem_iff

theorem Rearranged.proper (same : Rearranged g g') (proper : g.Proper) : g'.Proper where
  nodup := same.nodes.nodup_iff.1 proper.nodup
  closed edge := same.nodes.mem_iff.1 (proper.closed (same.edge_eq ▸ edge))

theorem Rearranged.canFinish_perm (same : Rearranged g g') (proper : g.Proper)
    {others : List String} (ends : ∀ x, x ∈ others ↔ x ∈ openEnded) :
    (g'.canFinish others).Perm (g.canFinish openEnded) := by
  have proper' := same.proper proper
  refine (List.perm_ext_iff_of_nodup (nodup_canFinish proper') (nodup_canFinish proper)).2
    fun x => ?_
  rw [mem_canFinish_iff_path proper', mem_canFinish_iff_path proper, ← same.nodes.mem_iff]
  refine and_congr_right fun _ => exists_congr fun f => and_congr ?_ (or_congr ?_ (ends f))
  · rw [Path, Path, same.edge_eq]
  · exact ⟨fun hnil => List.perm_nil.1 (hnil ▸ same.targets f),
      fun hnil => List.nil_perm.1 (hnil ▸ same.targets f)⟩

/-- What the search for what can be complete does: it gives the nodes from which a path leads to
a node without edges or to an open end; it gets there by turns; any turns from there, in any
order, come to an end before they are more than the nodes, and to that result; and so does the
search in a map that is arranged in another way. -/
structure FindsFinish (g : Graph) (openEnded : List String) : Prop where
  exact : ∀ x, x ∈ g.canFinish openEnded ↔
    x ∈ g.nodes ∧ ∃ f, g.Path x f ∧ (g.targets f = [] ∨ f ∈ openEnded)
  once : (g.canFinish openEnded).Nodup
  comes : Turns g (g.canFinish openEnded).length ⟨g.finals openEnded, g.finals openEnded⟩
    ⟨[], g.canFinish openEnded⟩
  ends : ∀ {start n s}, start.Perm (g.finals openEnded) → Turns g n ⟨start, start⟩ s →
    n + s.line.length ≤ g.nodes.length ∧ (s.line ≠ [] → ∃ t, Turn g s t) ∧
      (s.line = [] → s.found.Perm (g.canFinish openEnded))
  unordered : ∀ {g' others}, Rearranged g g' → (∀ x, x ∈ others ↔ x ∈ openEnded) →
    (g'.canFinish others).Perm (g.canFinish openEnded)

/-- The search is exact, ends, and gives the same in every order. -/
theorem canFinish_findsFinish (proper : g.Proper) (openEnded : List String) :
    FindsFinish g openEnded where
  exact _ := mem_canFinish_iff_path proper
  once := nodup_canFinish proper
  comes := turns_canFinish proper
  ends := by
    intro start n s perm turns
    have swept := swept_of_perm proper perm turns
    refine ⟨?_, exists_turn proper, fun hline => ?_⟩
    · rw [swept.count]
      exact (swept.nodup.subperm swept.named).length_le
    · refine (List.perm_ext_iff_of_nodup swept.nodup (nodup_canFinish proper)).2 fun x => ?_
      rw [swept.mem_found_iff hline, mem_canFinish_iff proper]
      exact exists_congr fun f => and_congr_left' perm.mem_iff
  unordered same ends := same.canFinish_perm proper ends

def roundabout : Graph :=
  [("ask", ["again"]), ("again", ["ask", "done"]), ("done", []), ("lost", ["lost"])]

theorem canFinish_findsFinish_roundabout :
    roundabout.Proper ∧ FindsFinish roundabout ["gone"] ∧
      roundabout.canFinish ["gone"] = ["done", "again", "ask"] := by
  have proper : roundabout.Proper := by
    refine ⟨by decide, fun {a b} edge => ?_⟩
    obtain ⟨ts, hts, hb⟩ := edge.source
    simp only [roundabout, List.mem_cons, Prod.mk.injEq, List.not_mem_nil, or_false] at hts
    rcases hts with ⟨-, rfl⟩ | ⟨-, rfl⟩ | ⟨-, rfl⟩ | ⟨-, rfl⟩ <;>
      simp only [List.mem_cons, List.not_mem_nil, or_false] at hb
    · rw [hb]
      decide
    · rcases hb with rfl | rfl <;> decide
    · rw [hb]
      decide
  exact ⟨proper, canFinish_findsFinish proper ["gone"],
    by simp [roundabout, canFinish, finals, closure, fresh, sources, nodes, Entries.keys, targets,
      Entries.get?]⟩

end IntakeForms.Flow.Graph
