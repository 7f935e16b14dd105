import IntakeForms.Flow.Route

/-!
The graph of a flow: for every section the targets of its rules.  `closure` is the
search behind both questions asked of it, what can be reached and what can come
to an end; `cycles` are the loops a depth-first search closes.
-/

namespace IntakeForms.Flow

abbrev Graph := List (String × List String)

def targetsOf (sections : List Section) (id : String) : List String :=
  let known := sections.map (·.id)
  distinct (((sections.filter (·.id = id)).flatMap (·.rules.map Rule.target)).filter (· ∈ known))

def graphOf (sections : List Section) : Graph :=
  (distinct (sections.map (·.id))).map fun id => (id, targetsOf sections id)

namespace Graph

def nodes (g : Graph) : List String := Entries.keys g

def targets (g : Graph) (n : String) : List String := (Entries.get? n g).getD []

def mentioned (g : Graph) : List String := distinct (g.nodes ++ g.flatMap (·.2))

def sources (g : Graph) (n : String) : List String :=
  (g.filter fun (_, ts) => n ∈ ts).map (·.1)

def fresh (next : String → List String) (nodes seen : List String) (n : String) : List String :=
  nodes.filter fun x => x ∈ next n ∧ x ∉ seen

theorem length_filter_fresh (next : String → List String) (nodes seen : List String)
    (n : String) :
    (nodes.filter fun x => x ∉ seen ++ fresh next nodes seen n).length +
      (fresh next nodes seen n).length = (nodes.filter fun x => x ∉ seen).length := by
  have key : ∀ l : List String, (∀ x ∈ l, x ∈ nodes) →
      (l.filter fun x => x ∉ seen ++ fresh next nodes seen n).length +
        (l.filter fun x => x ∈ next n ∧ x ∉ seen).length =
      (l.filter fun x => x ∉ seen).length := by
    intro l
    induction l with
    | nil => simp
    | cons a rest ih =>
      intro h
      have ha : a ∈ nodes := h a (by simp)
      have hr := ih fun x hx => h x (by simp [hx])
      simp only [fresh] at hr ⊢
      by_cases hs : a ∈ seen
      · simpa [hs] using hr
      · by_cases hn : a ∈ next n
        · simp [hs, hn, ha] at hr ⊢; omega
        · simp [hs, hn] at hr ⊢; omega
  exact key nodes fun _ hx => hx

/-- All nodes that `next` leads to from what has been seen; `todo` is still to be followed. -/
def closure (next : String → List String) (nodes todo seen : List String) : List String :=
  match todo with
  | [] => seen
  | n :: rest =>
    closure next nodes (rest ++ fresh next nodes seen n)
      (seen ++ fresh next nodes seen n)
termination_by (nodes.filter fun x => x ∉ seen).length + todo.length
decreasing_by
  have := length_filter_fresh next nodes seen n
  simp only [List.length_append, List.length_cons]
  omega

def reachable (g : Graph) (entry : String) : List String :=
  closure g.targets g.mentioned [entry] [entry]

/-- Where the flow can be complete: no edge leads on, or the section is open-ended. -/
def finals (g : Graph) (openEnded : List String) : List String :=
  g.nodes.filter fun n => (g.targets n).isEmpty ∨ n ∈ openEnded

def canFinish (g : Graph) (openEnded : List String) : List String :=
  closure g.sources g.nodes (g.finals openEnded) (g.finals openEnded)

def sameNodes (c d : List String) : Bool :=
  c.all (· ∈ d) && d.all (· ∈ c)

def note (cycles : List (List String)) (c : List String) : List (List String) :=
  if cycles.any (sameNodes c) then cycles else cycles ++ [c]

def loopFrom (n : String) (stack : List String) : List String :=
  stack.reverse.dropWhile (· ≠ n)

/-- Depth-first search.  The stack has the top first, each node with the targets not yet tried;
`left` are the nodes not yet entered. -/
def search (g : Graph) (left : List String) (stack : List (String × List String))
    (cycles : List (List String)) : List (List String) :=
  match stack with
  | [] => cycles
  | (_, []) :: rest => search g left rest cycles
  | (n, t :: ts) :: rest =>
    let below := (n, ts) :: rest
    if t ∈ below.map (·.1) then
      search g left below (note cycles (loopFrom t (below.map (·.1))))
    else if t ∈ left then
      search g (left.erase t) ((t, g.targets t) :: below) cycles
    else search g left below cycles
termination_by (left.length, (stack.flatMap (·.2)).length + stack.length)
decreasing_by
  · apply Prod.Lex.right; simp
  · apply Prod.Lex.right; simp
  · next ht =>
    apply Prod.Lex.left
    have := List.length_erase_of_mem ht
    have := List.length_pos_of_mem ht
    omega
  · apply Prod.Lex.right; simp

def cycles (g : Graph) (entry : String) : List (List String) :=
  search g (g.mentioned.erase entry) [(entry, g.targets entry)] []

end Graph

end IntakeForms.Flow
