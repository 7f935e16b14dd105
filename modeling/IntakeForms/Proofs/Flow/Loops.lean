import IntakeForms.Proofs.Flow.Search
import Mathlib.Data.List.Chain
import Mathlib.Data.List.Nodup
import Mathlib.Data.List.TakeWhile

/-! What the depth-first search finds.  It closes only some of the loops, yet one in
every knot that can be reached, a set of nodes each with an edge that stays in the
set, to which no path that left it returns.  A trap, which no edge leaves, is a knot;
so a flow has a way out everywhere exactly when every loop found has one. -/

namespace IntakeForms.Flow.Graph

open Relation

abbrev Frame := String × List String

/-- What holds between any two steps of the search: frames lie along a path from the entry,
and an edge of a node that was entered is done with or still pending on the stack. -/
structure Searching (g : Graph) (entry : String) (left : List String) (stack : List Frame) :
    Prop where
  nodup : left.Nodup
  reached : ∀ f ∈ stack, g.Path entry f.1
  chain : (stack.map (·.1)).IsChain fun upper lower => g.Edge lower upper
  pending : ∀ f ∈ stack, ∀ t ∈ f.2, g.Edge f.1 t
  entered : ∀ f ∈ stack, f.1 ∉ left
  apart : (stack.map (·.1)).Nodup
  tried : ∀ {x t}, x ∉ left → g.Edge x t → t ∉ left ∨ ∃ f ∈ stack, f.1 = x ∧ t ∈ f.2

/-- Distinct nodes, each with an edge to the next, and the last with one to the first. -/
structure Loop (g : Graph) (c : List String) : Prop where
  nonempty : c ≠ []
  nodup : c.Nodup
  chain : c.IsChain g.Edge
  closes : g.Edge (c.getLast nonempty) (c.head nonempty)

/-- The loops found so far: all can be reached, and no two have the same nodes. -/
structure Found (g : Graph) (entry : String) (cycles : List (List String)) : Prop where
  loop : ∀ c ∈ cycles, g.Loop c
  reached : ∀ c ∈ cycles, ∀ x ∈ c, g.Path entry x
  apart : cycles.Pairwise fun c d => ¬ ∀ x, x ∈ c ↔ x ∈ d

/-- Nodes that all have an edge to one of them, with every path between two of them inside. -/
structure Knot (g : Graph) (R : String → Prop) : Prop where
  leads : ∀ {a}, R a → ∃ b, g.Edge a b ∧ R b
  convex : ∀ {a b c}, R a → R c → g.Path a b → g.Path b c → R b

/-- Nodes that no edge leaves and that all have an edge. -/
structure Trap (g : Graph) (R : String → Prop) : Prop where
  closed : ∀ {a b}, R a → g.Edge a b → R b
  leads : ∀ {a}, R a → g.targets a ≠ []

def Holds (R : String → Prop) (cycles : List (List String)) : Prop :=
  ∃ c ∈ cycles, ∀ x ∈ c, R x

/-- Every edge within `R` of a node on the stack is yet to be tried or led to the frame above,
which is `upper` for the topmost frame of the list. -/
def Awaits (g : Graph) (R : String → Prop) (upper : Option String) : List Frame → Prop
  | [] => True
  | f :: rest =>
    (R f.1 → ∀ t, g.Edge f.1 t → R t → t ∈ f.2 ∨ upper = some t) ∧ Awaits g R (some f.1) rest

/-- A loop in the knot was found, or no node of it is done with yet: those entered are on the
stack, and none of their edges within the knot has come to nothing. -/
def Watched (g : Graph) (R : String → Prop) (left : List String) (stack : List Frame)
    (cycles : List (List String)) : Prop :=
  Holds R cycles ∨ (∀ x, R x → x ∉ left → x ∈ stack.map (·.1)) ∧ Awaits g R none stack

variable {g : Graph} {entry : String} {left : List String} {R : String → Prop}
  {cycles : List (List String)}

namespace Searching

variable {n t : String} {ts : List String} {rest : List Frame}

theorem start (g : Graph) (entry : String) :
    Searching g entry (g.mentioned.erase entry) [(entry, g.targets entry)] where
  nodup := (nodup_distinct _).erase entry
  reached := by simp [Path, ReflTransGen.refl]
  chain := by simp
  pending := by simp [Edge]
  entered := by simp [(nodup_distinct _).mem_erase_iff, mentioned]
  apart := by simp
  tried := by
    intro x t hx edge
    have hm : x ∈ g.mentioned := edge.mem_mentioned.1
    have : x = entry := by
      by_contra hne
      exact hx ((List.mem_erase_of_ne hne).2 hm)
    subst this
    exact .inr ⟨_, List.mem_singleton_self _, rfl, edge⟩

theorem onStack {stack : List Frame} (h : Searching g entry left stack) {x : String}
    (hx : x ∈ stack.map (·.1)) : x ∉ left ∧ g.Path entry x := by
  obtain ⟨f, hf, rfl⟩ := List.mem_map.1 hx
  exact ⟨h.entered f hf, h.reached f hf⟩

theorem pop (h : Searching g entry left ((n, []) :: rest)) : Searching g entry left rest where
  nodup := h.nodup
  reached f hf := h.reached f (List.mem_cons_of_mem _ hf)
  chain := h.chain.tail
  pending f hf := h.pending f (List.mem_cons_of_mem _ hf)
  entered f hf := h.entered f (List.mem_cons_of_mem _ hf)
  apart := h.apart.of_cons
  tried := by
    intro x u hx edge
    refine (h.tried hx edge).imp_right ?_
    rintro ⟨f, hf, rfl, hu⟩
    rcases List.mem_cons.1 hf with rfl | hf
    · simp at hu
    · exact ⟨f, hf, rfl, hu⟩

theorem skip (h : Searching g entry left ((n, t :: ts) :: rest)) (ht : t ∉ left) :
    Searching g entry left ((n, ts) :: rest) where
  nodup := h.nodup
  reached := by simpa only [List.forall_mem_cons] using h.reached
  chain := by simpa using h.chain
  pending := by
    have hp := h.pending
    simp only [List.forall_mem_cons] at hp ⊢
    exact ⟨hp.1.2, hp.2⟩
  entered := by simpa only [List.forall_mem_cons] using h.entered
  apart := h.apart
  tried := by
    intro x u hx edge
    rcases h.tried hx edge with hu | ⟨f, hf, rfl, hu⟩
    · exact .inl hu
    · rcases List.mem_cons.1 hf with rfl | hf
      · rcases List.mem_cons.1 hu with rfl | hu
        · exact .inl ht
        · exact .inr ⟨(n, ts), List.mem_cons_self .., rfl, hu⟩
      · exact .inr ⟨f, List.mem_cons_of_mem _ hf, rfl, hu⟩

theorem enter (h : Searching g entry left ((n, t :: ts) :: rest)) (ht : t ∈ left) :
    Searching g entry (left.erase t) ((t, g.targets t) :: (n, ts) :: rest) := by
  have edge : g.Edge n t := h.pending (n, t :: ts) (by simp) t (by simp)
  have erased : ∀ {x}, x ∉ left → x ∉ left.erase t := fun hx hmem => hx (List.mem_of_mem_erase hmem)
  have gone : t ∉ left.erase t := fun hmem => (h.nodup.mem_erase_iff.1 hmem).1 rfl
  refine ⟨h.nodup.erase t, ?reached, ?chain, ?pending, ?entered, ?apart, ?tried⟩
  case reached =>
    have hr := h.reached
    simp only [List.forall_mem_cons] at hr ⊢
    exact ⟨hr.1.tail edge, hr⟩
  case chain =>
    have hchain := h.chain
    simp only [List.map_cons, List.isChain_cons_cons] at hchain ⊢
    exact ⟨edge, hchain⟩
  case pending =>
    have hp := h.pending
    simp only [List.forall_mem_cons] at hp ⊢
    exact ⟨fun _ hu => hu, hp.1.2, hp.2⟩
  case entered =>
    have he := h.entered
    simp only [List.forall_mem_cons] at he ⊢
    exact ⟨gone, erased he.1, fun f hf => erased (he.2 f hf)⟩
  case apart =>
    refine List.nodup_cons.2 ⟨fun hmem => ?_, h.apart⟩
    exact (h.onStack (by simpa using hmem)).1 ht
  case tried =>
    intro x u hx hxu
    by_cases heq : x = t
    · subst heq
      exact .inr ⟨_, List.mem_cons_self .., rfl, hxu⟩
    · have hx : x ∉ left := fun hmem => hx ((List.mem_erase_of_ne heq).2 hmem)
      rcases h.tried hx hxu with hu | ⟨f, hf, rfl, hu⟩
      · exact .inl (erased hu)
      · rcases List.mem_cons.1 hf with rfl | hf
        · rcases List.mem_cons.1 hu with rfl | hu
          · exact .inl gone
          · exact .inr ⟨(n, ts), by simp, rfl, hu⟩
        · exact .inr ⟨f, by simp [hf], rfl, hu⟩

end Searching

theorem sameNodes_iff {c d : List String} : sameNodes c d = true ↔ ∀ x, x ∈ c ↔ x ∈ d := by
  simp only [sameNodes, Bool.and_eq_true, List.all_eq_true, decide_eq_true_eq]
  exact ⟨fun h x => ⟨h.1 x, h.2 x⟩, fun h => ⟨fun x => (h x).1, fun x => (h x).2⟩⟩

theorem Holds.note (h : Holds R cycles) (d : List String) : Holds R (note cycles d) := by
  obtain ⟨c, hc, hR⟩ := h
  unfold Graph.note
  split
  · exact ⟨c, hc, hR⟩
  · exact ⟨c, List.mem_append_left _ hc, hR⟩

theorem holds_note {d : List String} (h : ∀ x ∈ d, R x) : Holds R (note cycles d) := by
  unfold note
  split
  · next hany =>
    obtain ⟨c, hc, hsame⟩ := List.any_eq_true.1 hany
    exact ⟨c, hc, fun x hx => h x ((sameNodes_iff.1 hsame x).2 hx)⟩
  · exact ⟨d, by simp, h⟩

theorem Found.note {d : List String} (h : Found g entry cycles) (loop : g.Loop d)
    (reached : ∀ x ∈ d, g.Path entry x) : Found g entry (note cycles d) := by
  unfold Graph.note
  split
  · exact h
  · next hany =>
    have fresh : ∀ c ∈ cycles, ¬ ∀ x, x ∈ c ↔ x ∈ d := by
      intro c hc same
      exact hany (List.any_eq_true.2 ⟨c, hc, sameNodes_iff.2 fun x => (same x).symm⟩)
    refine ⟨?loop, ?reached, ?apart⟩
    case loop => simpa [or_imp, forall_and] using ⟨h.loop, loop⟩
    case reached => simpa [or_imp, forall_and] using ⟨h.reached, reached⟩
    case apart => exact List.pairwise_append.2 ⟨h.apart, by simp, by simpa using fresh⟩

theorem loopFrom_eq {n : String} {stack : List String} (h : n ∈ stack) :
    ∃ rest, loopFrom n stack = n :: rest ∧ n :: rest <:+ stack.reverse := by
  have hne : loopFrom n stack ≠ [] := by
    unfold loopFrom
    rw [ne_eq, List.dropWhile_eq_nil_iff]
    intro hall
    simpa using hall n (List.mem_reverse.2 h)
  obtain ⟨m, rest, heq⟩ := List.exists_cons_of_ne_nil hne
  have hm : m = n := by
    have hhead := List.head_dropWhile_not (fun x => decide (x ≠ n)) hne
    have : (loopFrom n stack).head hne = m := by simp [heq]
    simpa [← this, loopFrom] using hhead
  subst hm
  exact ⟨rest, heq, heq ▸ List.dropWhile_suffix _⟩

theorem path_of_isChain {l : List String} (chain : l.IsChain g.Edge) (hne : l ≠ []) :
    ∀ x ∈ l, g.Path (l.head hne) x ∧ g.Path x (l.getLast hne) := by
  induction l with
  | nil => exact absurd rfl hne
  | cons a rest ih =>
    cases rest with
    | nil => simp [Path, ReflTransGen.refl]
    | cons b rest =>
      rw [List.isChain_cons_cons] at chain
      have ih := ih chain.2 (by simp)
      intro x hx
      rcases List.mem_cons.1 hx with rfl | hx
      · exact ⟨.refl, .head chain.1 (ih b (by simp)).2⟩
      · exact ⟨.head chain.1 (ih x hx).1, (ih x hx).2⟩

theorem Loop.paths {c : List String} (loop : g.Loop c) {x : String} (hx : x ∈ c) :
    g.Path (c.head loop.nonempty) x ∧ g.Path x (c.getLast loop.nonempty) :=
  path_of_isChain loop.chain loop.nonempty x hx

section

variable {n t : String} {ts : List String} {rest : List Frame}

/-- An edge from the top of the stack back to a node on it closes a loop, which starts with that
node and ends at the top. -/
theorem Searching.loop (h : Searching g entry left ((n, t :: ts) :: rest))
    (ht : t ∈ ((n, ts) :: rest).map (·.1)) :
    ∃ loop : g.Loop (loopFrom t (((n, ts) :: rest).map (·.1))),
      List.head _ loop.nonempty = t ∧ List.getLast _ loop.nonempty = n := by
  have edge : g.Edge n t := h.pending (n, t :: ts) (by simp) t (by simp)
  have up : (((n, ts) :: rest).map (·.1)).reverse.IsChain g.Edge :=
    List.isChain_reverse.2 (by simpa using h.chain)
  obtain ⟨above, heq, hsuffix⟩ := loopFrom_eq ht
  have hlast : (t :: above).getLast (by simp) = n := by
    rw [hsuffix.getLast]
    simp
  rw [heq]
  refine ⟨⟨by simp, ?nodup, up.suffix hsuffix, ?closes⟩, rfl, hlast⟩
  case nodup => exact (List.nodup_reverse.2 h.apart).sublist hsuffix.sublist
  case closes => simpa [hlast] using edge

theorem Watched.pop (knot : g.Knot R) (w : Watched g R left ((n, []) :: rest) cycles) :
    Watched g R left rest cycles := by
  refine w.imp_right fun ⟨onStack, top, awaits⟩ => ?_
  have hn : ¬ R n := by
    intro hR
    obtain ⟨b, edge, hb⟩ := knot.leads hR
    simpa using top hR b edge hb
  refine ⟨fun x hx hleft => ?_, ?_⟩
  · have hmem := onStack x hx hleft
    simp only [List.map_cons, List.mem_cons] at hmem
    exact hmem.resolve_left fun heq => hn (heq ▸ hx)
  · cases rest with
    | nil => exact trivial
    | cons f rest =>
      refine ⟨fun hf u edge hu => .inl ((awaits.1 hf u edge hu).resolve_right fun heq => ?_),
        awaits.2⟩
      obtain rfl : n = u := by simpa using heq
      exact hn hu

theorem Watched.skip (w : Watched g R left ((n, t :: ts) :: rest) cycles)
    (out : ¬ Holds R cycles → R n → ¬ R t) : Watched g R left ((n, ts) :: rest) cycles := by
  by_cases found : Holds R cycles
  · exact .inl found
  · obtain ⟨onStack, top, awaits⟩ := w.resolve_left found
    refine .inr ⟨by simpa using onStack, fun hn u edge hu => ?_, awaits⟩
    have hne : u ≠ t := fun heq => out found hn (heq ▸ hu)
    simpa [hne] using top hn u edge hu

theorem Watched.close (knot : g.Knot R) (h : Searching g entry left ((n, t :: ts) :: rest))
    (w : Watched g R left ((n, t :: ts) :: rest) cycles)
    (ht : t ∈ ((n, ts) :: rest).map (·.1)) :
    Watched g R left ((n, ts) :: rest)
      (note cycles (loopFrom t (((n, ts) :: rest).map (·.1)))) := by
  by_cases inside : R n ∧ R t
  · obtain ⟨loop, hhead, hlast⟩ := h.loop ht
    refine .inl (holds_note fun x hx => ?_)
    have paths := loop.paths hx
    rw [hhead, hlast] at paths
    exact knot.convex inside.2 inside.1 paths.1 paths.2
  · have w := w.skip fun _ hn htR => inside ⟨hn, htR⟩
    exact w.imp_left fun found => found.note _

theorem Watched.enter (w : Watched g R left ((n, t :: ts) :: rest) cycles) :
    Watched g R (left.erase t) ((t, g.targets t) :: (n, ts) :: rest) cycles := by
  refine w.imp_right fun ⟨onStack, top, awaits⟩ => ⟨fun x hx hleft => ?_, ?_, ?_, awaits⟩
  · by_cases heq : x = t
    · simp [heq]
    · have hmem := onStack x hx fun hmem => hleft ((List.mem_erase_of_ne heq).2 hmem)
      simp only [List.map_cons, List.mem_cons] at hmem ⊢
      exact .inr hmem
  · exact fun _ u edge _ => .inl edge
  · intro hn u edge hu
    have hmem := top hn u edge hu
    simp only [List.mem_cons, reduceCtorEq, or_false] at hmem
    exact hmem.symm.imp_right fun heq => congrArg some heq.symm

theorem Searching.entered_all (h : Searching g entry left []) (hentry : entry ∉ left) {x : String}
    (path : g.Path entry x) : x ∉ left := by
  induction path with
  | refl => exact hentry
  | tail _ edge ih =>
    rcases h.tried ih edge with hx | ⟨f, hf, -⟩
    · exact hx
    · simp at hf

theorem search_holds (knot : g.Knot R) (stack : List Frame) (h : Searching g entry left stack)
    (w : Watched g R left stack cycles) (hentry : entry ∉ left) {u : String}
    (path : g.Path entry u) (hu : R u) : Holds R (search g left stack cycles) := by
  fun_induction search g left stack cycles with
  | case1 left cycles =>
    refine w.resolve_right fun ⟨onStack, _⟩ => ?_
    simpa using onStack u hu (h.entered_all hentry path)
  | case2 left cycles n rest ih => exact ih h.pop (w.pop knot) hentry
  | case3 left cycles n t ts rest below ht ih =>
    exact ih (h.skip (h.onStack ht).1) (w.close knot h ht) hentry
  | case4 left cycles n t ts rest below _ ht ih =>
    exact ih (h.enter ht) w.enter fun hmem => hentry (List.mem_of_mem_erase hmem)
  | case5 left cycles n t ts rest below hstack ht ih =>
    -- a node entered and no longer on the stack is in no knot still watched
    refine ih (h.skip ht) (w.skip fun found _ htR => hstack ?_) hentry
    simpa [below] using (w.resolve_left found).1 t htR ht

theorem search_found (stack : List Frame) (h : Searching g entry left stack)
    (found : Found g entry cycles) : Found g entry (search g left stack cycles) := by
  fun_induction search g left stack cycles with
  | case1 => exact found
  | case2 left cycles n rest ih => exact ih h.pop found
  | case3 left cycles n t ts rest below ht ih =>
    have skip := h.skip (h.onStack ht).1
    obtain ⟨loop, -⟩ := h.loop ht
    refine ih skip (found.note loop fun x hx => (skip.onStack ?_).2)
    exact List.mem_reverse.1 ((List.dropWhile_suffix _).subset hx)
  | case4 left cycles n t ts rest below _ ht ih => exact ih (h.enter ht) found
  | case5 left cycles n t ts rest below _ ht ih => exact ih (h.skip ht) found

end

theorem entry_not_left (g : Graph) (entry : String) : entry ∉ g.mentioned.erase entry :=
  fun h => (List.Nodup.mem_erase_iff (nodup_distinct _)).1 h |>.1 rfl

theorem exists_cycle_of_knot (knot : g.Knot R) {u : String} (path : g.Path entry u) (hu : R u) :
    ∃ c ∈ g.cycles entry, ∀ x ∈ c, R x := by
  have first : ∀ x, R x → x ∉ g.mentioned.erase entry → x ∈ [entry] := by
    intro x hx hleft
    obtain ⟨t, edge, -⟩ := knot.leads hx
    by_contra hne
    exact hleft ((List.mem_erase_of_ne (by simpa using hne)).2 edge.mem_mentioned.1)
  have awaits : Awaits g R none [(entry, g.targets entry)] :=
    ⟨fun _ t edge _ => .inl edge, trivial⟩
  exact search_holds knot _ (Searching.start g entry) (.inr ⟨by simpa using first, awaits⟩)
    (entry_not_left g entry) path hu

theorem cycles_found (g : Graph) (entry : String) : Found g entry (g.cycles entry) :=
  search_found _ (Searching.start g entry) ⟨by simp, by simp, .nil⟩

theorem Trap.path (trap : g.Trap R) {a b : String} (ha : R a) (path : g.Path a b) : R b := by
  induction path with
  | refl => exact ha
  | tail _ edge ih => exact trap.closed ih edge

theorem Trap.knot (trap : g.Trap R) : g.Knot R where
  leads hx := by
    obtain ⟨t, ht⟩ := List.exists_mem_of_ne_nil _ (trap.leads hx)
    exact ⟨t, ht, trap.closed hx ht⟩
  convex ha _ path _ := trap.path ha path

theorem cycles_escape_iff (proper : g.Proper) (hentry : entry ∈ g.nodes)
    (openEnded : List String) :
    (∀ c ∈ g.cycles entry, ∃ x ∈ c, x ∈ g.canFinish openEnded) ↔
      ∀ x, g.Path entry x → x ∈ g.canFinish openEnded := by
  constructor
  · intro escape x path
    by_contra hstuck
    have trap : g.Trap fun y => g.Path entry y ∧ y ∉ g.canFinish openEnded := by
      refine ⟨fun hy edge => ⟨hy.1.tail edge, fun hb => hy.2 ?_⟩, fun hy hnil => hy.2 ?_⟩
      · exact mem_canFinish_of_edge proper edge hb
      · refine (mem_canFinish_iff proper).2 ⟨_, ?_, .refl⟩
        simp [finals, proper.path_mem_nodes hentry hy.1, hnil]
    obtain ⟨c, hc, hin⟩ := exists_cycle_of_knot trap.knot path ⟨path, hstuck⟩
    obtain ⟨y, hy, hfin⟩ := escape c hc
    exact (hin y hy).2 hfin
  · intro finish c hc
    have found := g.cycles_found entry
    obtain ⟨y, hy⟩ := List.exists_mem_of_ne_nil c (found.loop c hc).nonempty
    exact ⟨y, hy, finish y (found.reached c hc y hy)⟩

end IntakeForms.Flow.Graph
