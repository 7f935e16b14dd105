import IntakeForms.Flow.Graph
import Mathlib.Logic.Relation

/-! The search behind reachability is exact: it gives the nodes at the end of a
path, and no others.  A path is a chain of edges; what can be complete is found by
the same search against the edges. -/

namespace IntakeForms.Flow.Graph

open Relation

/-- One edge. -/
def Edge (g : Graph) (a b : String) : Prop := b ∈ g.targets a

/-- Any number of edges. -/
def Path (g : Graph) : String → String → Prop := ReflTransGen g.Edge

/-- Every key occurs once and every target is a key. -/
structure Proper (g : Graph) : Prop where
  nodup : g.nodes.Nodup
  closed : ∀ {a b}, g.Edge a b → b ∈ g.nodes

theorem mem_fresh {next : String → List String} {nodes seen : List String} {n x : String} :
    x ∈ fresh next nodes seen n ↔ x ∈ nodes ∧ x ∈ next n ∧ x ∉ seen := by
  simp [fresh]

theorem seen_subset_closure (next : String → List String) (nodes todo seen : List String) :
    seen ⊆ closure next nodes todo seen := by
  fun_induction closure next nodes todo seen with
  | case1 seen => exact List.Subset.refl seen
  | case2 seen n rest ih => exact fun x hx => ih (List.mem_append_left _ hx)

theorem closure_sound (next : String → List String) (nodes todo seen : List String)
    (hsub : todo ⊆ seen) {x : String} (hx : x ∈ closure next nodes todo seen) :
    ∃ a ∈ seen, ReflTransGen (fun a b => b ∈ next a ∧ b ∈ nodes) a x := by
  fun_induction closure next nodes todo seen with
  | case1 seen => exact ⟨x, hx, .refl⟩
  | case2 seen n rest ih =>
    have hrest : rest ++ fresh next nodes seen n ⊆ seen ++ fresh next nodes seen n := by
      intro y hy
      rcases List.mem_append.1 hy with hy | hy
      · exact List.mem_append_left _ (hsub (List.mem_cons_of_mem n hy))
      · exact List.mem_append_right _ hy
    obtain ⟨a, ha, path⟩ := ih hrest hx
    rcases List.mem_append.1 ha with ha | ha
    · exact ⟨a, ha, path⟩
    · obtain ⟨hnodes, hnext, -⟩ := mem_fresh.1 ha
      exact ⟨n, hsub (List.mem_cons_self ..), .head ⟨hnext, hnodes⟩ path⟩

theorem closure_closed (next : String → List String) (nodes todo seen : List String)
    (hdone : ∀ a ∈ seen, a ∉ todo → ∀ b ∈ next a, b ∈ nodes → b ∈ seen)
    {a b : String} (ha : a ∈ closure next nodes todo seen) (hb : b ∈ next a) (hn : b ∈ nodes) :
    b ∈ closure next nodes todo seen := by
  fun_induction closure next nodes todo seen with
  | case1 seen => exact hdone a ha (by simp) b hb hn
  | case2 seen n rest ih =>
    refine ih ?_ ha
    intro a ha hrest b hb hn
    simp only [List.mem_append, not_or] at ha hrest ⊢
    have ha : a ∈ seen := ha.resolve_right hrest.2
    by_cases hseen : b ∈ seen
    · exact .inl hseen
    · by_cases heq : a = n
      · subst heq
        exact .inr (mem_fresh.2 ⟨hn, hb, hseen⟩)
      · have htodo : a ∉ n :: rest := by simp [heq, hrest.1]
        exact .inl (hdone a ha htodo b hb hn)

theorem mem_closure_iff {next : String → List String} {nodes start : List String} {x : String} :
    x ∈ closure next nodes start start ↔
      ∃ a ∈ start, ReflTransGen (fun a b => b ∈ next a ∧ b ∈ nodes) a x := by
  constructor
  · exact closure_sound next nodes start start (List.Subset.refl start)
  · rintro ⟨a, ha, path⟩
    induction path with
    | refl => exact seen_subset_closure next nodes start start ha
    | tail _ edge ih =>
      exact closure_closed next nodes start start (fun _ ha hn => absurd ha hn) ih edge.1 edge.2

variable {g : Graph}

theorem Edge.source {a b : String} (h : g.Edge a b) : ∃ ts, (a, ts) ∈ g ∧ b ∈ ts := by
  unfold Edge targets at h
  cases hget : Entries.get? a g with
  | none => simp [hget] at h
  | some ts => exact ⟨ts, Entries.mem_of_get? hget, by simpa [hget] using h⟩

theorem Edge.mem_nodes {a b : String} (h : g.Edge a b) : a ∈ g.nodes := by
  obtain ⟨ts, hts, -⟩ := h.source
  exact List.mem_map_of_mem hts

theorem Edge.mem_mentioned {a b : String} (h : g.Edge a b) :
    a ∈ g.mentioned ∧ b ∈ g.mentioned := by
  obtain ⟨ts, hts, hb⟩ := h.source
  unfold mentioned nodes Entries.keys
  simp only [mem_distinct, List.mem_append, List.mem_map, List.mem_flatMap]
  exact ⟨.inl ⟨(a, ts), hts, rfl⟩, .inr ⟨(a, ts), hts, hb⟩⟩

theorem Proper.path_mem_nodes (proper : g.Proper) {a b : String} (ha : a ∈ g.nodes)
    (path : g.Path a b) : b ∈ g.nodes := by
  rcases path.cases_tail with rfl | ⟨c, -, edge⟩
  · exact ha
  · exact proper.closed edge

theorem mem_reachable_iff {entry x : String} : x ∈ g.reachable entry ↔ g.Path entry x := by
  have rel : (fun a b => b ∈ g.targets a ∧ b ∈ g.mentioned) = g.Edge := by
    funext a b
    exact propext ⟨fun h => h.1, fun h => ⟨h, Edge.mem_mentioned h |>.2⟩⟩
  unfold reachable Path
  rw [mem_closure_iff, rel]
  simp

theorem mem_sources_iff (proper : g.Proper) {a b : String} :
    a ∈ g.sources b ↔ g.Edge a b := by
  unfold sources
  simp only [List.mem_map, List.mem_filter, decide_eq_true_eq]
  constructor
  · rintro ⟨⟨n, ts⟩, ⟨hmem, hb⟩, rfl⟩
    simpa [Edge, targets, Entries.get?_of_mem proper.nodup hmem] using hb
  · intro h
    obtain ⟨ts, hts, hb⟩ := h.source
    exact ⟨(a, ts), ⟨hts, hb⟩, rfl⟩

theorem mem_canFinish_iff (proper : g.Proper) {openEnded : List String} {x : String} :
    x ∈ g.canFinish openEnded ↔ ∃ f ∈ g.finals openEnded, g.Path x f := by
  have rel : (fun a b => b ∈ g.sources a ∧ b ∈ g.nodes) = Function.swap g.Edge := by
    funext a b
    refine propext ⟨fun h => (mem_sources_iff proper).1 h.1, fun h => ?_⟩
    exact ⟨(mem_sources_iff proper).2 h, Edge.mem_nodes h⟩
  unfold canFinish Path
  rw [mem_closure_iff, rel]
  simp only [reflTransGen_swap]

theorem mem_nodes_of_mem_canFinish (proper : g.Proper) {openEnded : List String} {x : String}
    (h : x ∈ g.canFinish openEnded) : x ∈ g.nodes := by
  obtain ⟨f, hf, path⟩ := (mem_canFinish_iff proper).1 h
  rcases path.cases_head with rfl | ⟨b, edge, -⟩
  · exact (List.mem_filter.1 hf).1
  · exact edge.mem_nodes

theorem mem_canFinish_of_edge (proper : g.Proper) {openEnded : List String} {a b : String}
    (edge : g.Edge a b) (hb : b ∈ g.canFinish openEnded) : a ∈ g.canFinish openEnded := by
  obtain ⟨f, hf, path⟩ := (mem_canFinish_iff proper).1 hb
  exact (mem_canFinish_iff proper).2 ⟨f, hf, .head edge path⟩

end IntakeForms.Flow.Graph
