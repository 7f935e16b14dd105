import IntakeForms.Proofs.Flow.Loops

/-! The loops found against the strongly connected components of the graph.  The search
does not list every loop: it leaves out those on the node set of one found before and
those whose closing edge leads to a node that is done with.  A component with an edge of
its own is a knot, so none is passed over as a whole. -/

namespace IntakeForms.Flow.Graph

open Relation

variable {g : Graph} {entry : String}

/-- The nodes that a node leads to and that lead back to it. -/
def Component (g : Graph) (a x : String) : Prop := g.Path a x ∧ g.Path x a

/-- An edge between two nodes of the component, which may be the same node. -/
def Cyclic (g : Graph) (a : String) : Prop :=
  ∃ u v, g.Component a u ∧ g.Component a v ∧ g.Edge u v

theorem Cyclic.knot {a : String} (cyclic : g.Cyclic a) : g.Knot (g.Component a) := by
  obtain ⟨u, v, hu, hv, edge⟩ := cyclic
  refine ⟨fun {x} hx => ?leads, fun hx hz toMiddle fromMiddle => ?convex⟩
  case leads =>
    -- the first edge on the way to `u`, or the edge of `u` itself
    have path : g.Path x u := hx.2.trans hu.1
    rcases path.cases_head with rfl | ⟨b, first, rest⟩
    · exact ⟨v, edge, hv⟩
    · exact ⟨b, first, hx.1.tail first, rest.trans hu.2⟩
  case convex => exact ⟨hx.1.trans toMiddle, fromMiddle.trans hz.2⟩

theorem Loop.component {c : List String} (loop : g.Loop c) {x y : String} (hx : x ∈ c)
    (hy : y ∈ c) : g.Component x y := by
  have hx := loop.paths hx
  have hy := loop.paths hy
  exact ⟨hx.2.trans (.head loop.closes hy.1), hy.2.trans (.head loop.closes hx.1)⟩

theorem Loop.cyclic {c : List String} (loop : g.Loop c) {x : String} (hx : x ∈ c) :
    g.Cyclic x :=
  ⟨_, _, loop.component hx (List.getLast_mem loop.nonempty),
    loop.component hx (List.head_mem loop.nonempty), loop.closes⟩

theorem Cyclic.exists_cycle {a : String} (cyclic : g.Cyclic a) (path : g.Path entry a) :
    ∃ c ∈ g.cycles entry, ∀ x ∈ c, g.Component a x :=
  exists_cycle_of_knot cyclic.knot path ⟨.refl, .refl⟩

theorem cycles_eq_nil_iff :
    g.cycles entry = [] ↔ ∀ c, g.Loop c → ∀ x ∈ c, ¬ g.Path entry x := by
  constructor
  · intro hnil c loop x hx path
    obtain ⟨d, hd, -⟩ := (loop.cyclic hx).exists_cycle path
    simp [hnil] at hd
  · intro unreached
    rw [List.eq_nil_iff_forall_not_mem]
    intro c hc
    have found := g.cycles_found entry
    have first := List.head_mem (found.loop c hc).nonempty
    exact unreached c (found.loop c hc) _ first (found.reached c hc _ first)

/-- What the search gives, from any node of any graph: loops within reach of the entry, no two
on the same nodes, at least one inside every cyclic component within reach, and so none only
where there is no loop within reach. -/
theorem cycles_cover_components (g : Graph) (entry : String) :
    (∀ c ∈ g.cycles entry, g.Loop c ∧ ∀ x ∈ c, g.Path entry x) ∧
      (g.cycles entry).Pairwise (fun c d => ¬ ∀ x, x ∈ c ↔ x ∈ d) ∧
      (∀ a, g.Path entry a → g.Cyclic a → ∃ c ∈ g.cycles entry, ∀ x ∈ c, g.Component a x) ∧
      (g.cycles entry = [] ↔ ∀ c, g.Loop c → ∀ x ∈ c, ¬ g.Path entry x) := by
  have found := g.cycles_found entry
  refine ⟨fun c hc => ⟨found.loop c hc, found.reached c hc⟩, found.apart, ?covered,
    cycles_eq_nil_iff⟩
  case covered => exact fun a path cyclic => cyclic.exists_cycle path

/-- A loop that is not listed: `c` is done with when the edge from `a` to it is tried. -/
example :
    let g : Graph := [("a", ["b", "c"]), ("b", ["c"]), ("c", ["a"])]
    g.Loop ["a", "c"] ∧ g.cycles "a" = [["a", "b", "c"]] := by
  refine ⟨⟨by simp, by simp, by simp [Edge, targets, Entries.get?], ?_⟩, ?_⟩
  · simp [Edge, targets, Entries.get?]
  · simp [cycles, search, targets, Entries.get?, mentioned, nodes, Entries.keys, distinct, note,
      loopFrom]

end IntakeForms.Flow.Graph
