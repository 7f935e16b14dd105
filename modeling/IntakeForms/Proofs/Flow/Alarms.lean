import IntakeForms.Proofs.Flow.Findings
import IntakeForms.Proofs.Flow.WayOut

/-! That no loop is reported without reason.  What the check counts as unable to finish is
closed under every answer to every section of an identifier, so that from a loop reported as
one without a way out nobody completes the form: one goes on for ever, or is sent to an
identifier that no section has. -/

namespace IntakeForms.Flow

open Answer

variable {policy : Policy} {sections : List Section} {s : String}

/-- No section has the identifier. -/
def Missing (sections : List Section) (id : String) : Prop := ∀ t ∈ sections, t.id ≠ id

def Resolves (sections : List Section) (answers : Answers) (id : String)
    (next : Option String) : Prop :=
  ∃ t ∈ sections, t.id = id ∧ resolveNext t answers = next

/-- Where one can be after some answers, one section after the other.  Of several sections with
one identifier each turn takes any. -/
inductive After (sections : List Section) (s : String) : List Answers → Option String → Prop
  | start : After sections s [] (some s)
  | turn {given answers id next} : After sections s given (some id) →
      Resolves sections answers id next → After sections s (given ++ [answers]) next

/-- A walk with answers without end: where one is after each number of turns.  It rests at an
identifier that no section has. -/
structure Course (sections : List Section) (answers : ℕ → Answers) (s : String)
    (stage : ℕ → Option String) : Prop where
  start : stage 0 = some s
  turn : ∀ n id, stage n = some id → ¬ Missing sections id →
    Resolves sections (answers n) id (stage (n + 1))
  rest : ∀ n id, stage n = some id → Missing sections id → stage (n + 1) = some id

theorem exists_course (sections : List Section) (answers : ℕ → Answers) (s : String) :
    ∃ stage, Course sections answers s stage := by
  have step (given : Answers) (here : Option String) : ∃ next, ∀ id, here = some id →
      (¬ Missing sections id → Resolves sections given id next) ∧
        (Missing sections id → next = some id) := by
    cases here with
    | none => exact ⟨none, by simp⟩
    | some id =>
      by_cases missing : Missing sections id
      · exact ⟨some id, by simp [missing]⟩
      · obtain ⟨t, ht, hid⟩ : ∃ t ∈ sections, t.id = id := by simpa [Missing] using missing
        refine ⟨resolveNext t given, fun _ heq => ?_⟩
        obtain rfl := Option.some.inj heq
        exact ⟨fun _ => ⟨t, ht, hid, rfl⟩, fun h => absurd h missing⟩
  choose next hnext using step
  refine ⟨fun n => n.rec (some s) fun m here => next (answers m) here, rfl, ?_, ?_⟩
  · intro n id hid here
    exact (hnext (answers n) _ id hid).1 here
  · intro n id hid missing
    exact (hnext (answers n) _ id hid).2 missing

def Endless (sections : List Section) (id : String) : Prop :=
  id ∉ (graphOf sections).canFinish (openEnded sections)

theorem mem_canFinish_of_open {t : Section} (ht : t ∈ sections) (hopen : Open t) :
    t.id ∈ (graphOf sections).canFinish (openEnded sections) := by
  have node : t.id ∈ (graphOf sections).nodes := by
    rw [nodes_graphOf, mem_distinct]
    exact List.mem_map_of_mem ht
  have final : t.id ∈ (graphOf sections).finals (openEnded sections) := by
    rw [Graph.finals, List.mem_filter, decide_eq_true_eq]
    exact ⟨node, .inr (mem_openEnded_iff.2 ⟨t, ht, hopen, rfl⟩)⟩
  exact (Graph.mem_canFinish_iff (proper_graphOf sections)).2 ⟨_, final, .refl⟩

theorem Endless.turn {answers : Answers} {id : String} {next : Option String}
    (endless : Endless sections id) (turn : Resolves sections answers id next) :
    ∃ b, next = some b ∧ Endless sections b := by
  obtain ⟨t, ht, rfl, rfl⟩ := turn
  have proper := proper_graphOf sections
  cases hnext : resolveNext t answers with
  | none =>
    have hopen : Open t := exists_resolveNext_eq_none_iff.1 ⟨answers, hnext⟩
    exact absurd (mem_canFinish_of_open ht hopen) endless
  | some b =>
    refine ⟨b, rfl, fun hb => endless ?_⟩
    -- a target from which the form can be completed is a section, so the rule is an edge
    have node := Graph.mem_nodes_of_mem_canFinish proper hb
    rw [nodes_graphOf, mem_distinct] at node
    obtain ⟨r, live, htarget⟩ := live_of_resolveNext hnext
    have edge : (graphOf sections).Edge t.id b :=
      edge_graphOf_iff.2 ⟨⟨t, ht, rfl, r, live.mem, htarget⟩, node⟩
    exact Graph.mem_canFinish_of_edge proper edge hb

theorem Endless.after {given : List Answers} {next : Option String}
    (endless : Endless sections s) (after : After sections s given next) :
    ∃ id, next = some id ∧ Endless sections id := by
  induction after with
  | start => exact ⟨s, rfl, endless⟩
  | turn _ turn ih =>
    obtain ⟨_, hid, here⟩ := ih
    obtain rfl := Option.some.inj hid
    exact here.turn turn

theorem Endless.stage {answers : ℕ → Answers} {stage : ℕ → Option String}
    (endless : Endless sections s) (course : Course sections answers s stage) (n : ℕ) :
    ∃ id, stage n = some id ∧ Endless sections id := by
  induction n with
  | zero => exact ⟨s, course.start, endless⟩
  | succ n ih =>
    obtain ⟨id, hid, here⟩ := ih
    by_cases missing : Missing sections id
    · exact ⟨id, course.rest n id hid missing, here⟩
    · exact here.turn (course.turn n id hid missing)

theorem Course.forever_or_missing {answers : ℕ → Answers} {stage : ℕ → Option String}
    (course : Course sections answers s stage) (somewhere : ∀ n, ∃ id, stage n = some id) :
    (∀ n, ∃ t ∈ sections, stage n = some t.id) ∨
      ∃ n id, (∀ m ≥ n, stage m = some id) ∧ Missing sections id ∧
        ∀ m < n, ∃ t ∈ sections, stage m = some t.id := by
  have named {n : ℕ} (h : ¬ ∃ id, stage n = some id ∧ Missing sections id) :
      ∃ t ∈ sections, stage n = some t.id := by
    obtain ⟨id, hid⟩ := somewhere n
    by_contra hnot
    exact h ⟨id, hid, fun t ht heq => hnot ⟨t, ht, heq ▸ hid⟩⟩
  by_cases lost : ∃ n id, stage n = some id ∧ Missing sections id
  · classical
    right
    obtain ⟨id, hid, missing⟩ := Nat.find_spec lost
    refine ⟨Nat.find lost, id, fun m hm => ?_, missing, fun m hm => named (Nat.find_min lost hm)⟩
    induction m, hm using Nat.le_induction with
    | base => exact hid
    | succ m _ ih => exact course.rest m id ih missing
  · left
    exact fun n => named fun h => lost ⟨n, h⟩

/-- From a loop that is reported as one without a way out no answers, however many, complete the
form: one goes on for ever or stops at an identifier that no section has. -/
theorem reported_loop_never_completes {i : Issue} (h : i ∈ (check policy sections).errors)
    (hcode : i.code = "inescapable_cycle") (hs : i.sectionId = some s) :
    (∀ given next, After sections s given next → ∃ id, next = some id) ∧
      ∀ answers stage, Course sections answers s stage →
        (∀ n, ∃ t ∈ sections, stage n = some t.id) ∨
          ∃ n id, (∀ m ≥ n, stage m = some id) ∧ Missing sections id ∧
            ∀ m < n, ∃ t ∈ sections, stage m = some t.id := by
  obtain ⟨first, -, c, -, hout, rfl⟩ := (mem_check_loops_iff policy sections hcode).1 h
  have endless : Endless sections s := hout s (List.mem_of_head? hs)
  constructor
  · intro given next after
    obtain ⟨id, hid, -⟩ := endless.after after
    exact ⟨id, hid⟩
  · intro answers stage course
    refine course.forever_or_missing fun n => ?_
    obtain ⟨id, hid, -⟩ := endless.stage course n
    exact ⟨id, hid⟩

def circling : List Section :=
  [{ id := "ask", title := "", description := none
     blocks := [.question ⟨"more", "", none, false⟩ .select (some ["yes", "no"])]
     rules := [⟨"on", .any, none, none, "again"⟩] },
   { id := "again", title := "", description := none
     blocks := [.question ⟨"sure", "", none, false⟩ .select (some ["yes", "no"])]
     rules :=
       [⟨"lost", .equals, some "sure", some "no", "nowhere"⟩,
        ⟨"back", .any, none, none, "ask"⟩] }]

theorem reported_loop_never_completes_circling :
    inescapableLoop ["ask", "again"] ∈ (check {} circling).errors ∧
      (∀ given next, After circling "ask" given next → ∃ id, next = some id) ∧
      ∃ stage, Course circling (fun _ => [("sure", .text "no")]) "ask" stage ∧
        ∀ n, ∃ id, stage n = some id := by
  have found : (graphOf circling).cycles "ask" = [["ask", "again"]] := by cbv
  have finish : (graphOf circling).canFinish (openEnded circling) = [] := by cbv
  have h : inescapableLoop ["ask", "again"] ∈ (check {} circling).errors :=
    (mem_check_loops_iff {} circling rfl).2
      ⟨_, rfl, ["ask", "again"], by simp [found], by simp [finish], rfl⟩
  obtain ⟨finite, infinite⟩ := reported_loop_never_completes h rfl rfl
  obtain ⟨stage, course⟩ := exists_course circling (fun _ => [("sure", .text "no")]) "ask"
  refine ⟨h, finite, stage, course, fun n => ?_⟩
  rcases infinite _ stage course with named | ⟨m, id, rest, -, before⟩
  · obtain ⟨t, -, ht⟩ := named n
    exact ⟨t.id, ht⟩
  · rcases lt_or_ge n m with hn | hn
    · obtain ⟨t, -, ht⟩ := before n hn
      exact ⟨t.id, ht⟩
    · exact ⟨id, rest n hn⟩

end IntakeForms.Flow
