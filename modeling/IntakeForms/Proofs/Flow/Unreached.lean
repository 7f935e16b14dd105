import IntakeForms.Proofs.Flow.Findings
import IntakeForms.Proofs.Flow.Rounds

/-! What a report says is out of reach.  It lists the identifiers to which no rules lead from the
first section, where a rule counts if its target exists, in the order in which they first come up;
it has one issue for each of them, as an error or as a warning as the policy has it, and no path
of a respondent visits one. -/

namespace IntakeForms.Flow

open Relation

def Connected (sections : List Section) : String → String → Prop :=
  ReflTransGen fun a b => Leads sections a b ∧ b ∈ sections.map Section.id

theorem path_graphOf_eq (sections : List Section) :
    (graphOf sections).Path = Connected sections := by
  have edge : (graphOf sections).Edge =
      fun a b => Leads sections a b ∧ b ∈ sections.map Section.id := by
    funext a b
    exact propext edge_graphOf_iff
  rw [Graph.Path, edge]
  rfl

section

variable {sections : List Section} {reached : List String}

theorem mem_unreachable_iff {id : String} :
    id ∈ (unreachableSections sections reached).map Section.id ↔
      id ∈ sections.map Section.id ∧ id ∉ reached := by
  induction sections generalizing reached with
  | nil => simp [unreachableSections]
  | cons s rest ih =>
    rw [unreachableSections, List.map_cons, List.mem_cons]
    by_cases hs : s.id ∈ reached
    · rw [if_pos hs, ih]
      constructor
      · rintro ⟨hid, hnew⟩
        exact ⟨.inr hid, hnew⟩
      · rintro ⟨rfl | hid, hnew⟩
        · exact absurd hs hnew
        · exact ⟨hid, hnew⟩
    · rw [if_neg hs, List.map_cons, List.mem_cons, ih, List.mem_cons]
      by_cases hid : id = s.id
      · simp [hid, hs]
      · simp [hid]

theorem idxOf_unreachable {s : Section} (hs : s.id ∈ reached) {id : String}
    (hid : id ∈ (unreachableSections sections reached).map Section.id) :
    (s.id :: sections.map Section.id).idxOf id = (sections.map Section.id).idxOf id + 1 := by
  have hne : s.id ≠ id := fun heq => (mem_unreachable_iff.1 hid).2 (heq ▸ hs)
  rw [List.idxOf_cons_ne _ hne]

theorem unreachable_inOrder :
    ((unreachableSections sections reached).map Section.id).Pairwise fun a b =>
      (sections.map Section.id).idxOf a < (sections.map Section.id).idxOf b := by
  induction sections generalizing reached with
  | nil => exact .nil
  | cons s rest ih =>
    have tail : ∀ {reached : List String}, s.id ∈ reached →
        ((unreachableSections rest reached).map Section.id).Pairwise fun a b =>
          (s.id :: rest.map Section.id).idxOf a < (s.id :: rest.map Section.id).idxOf b := by
      intro reached hs
      refine ih.imp_of_mem fun {a b} ha hb hlt => ?_
      rw [idxOf_unreachable hs ha, idxOf_unreachable hs hb]
      omega
    rw [List.map_cons, unreachableSections]
    split
    · next hs => exact tail hs
    · have hs : s.id ∈ s.id :: reached := List.mem_cons_self
      refine List.pairwise_cons.2 ⟨fun id hid => ?_, tail hs⟩
      rw [idxOf_unreachable hs hid, List.idxOf_cons_self]
      omega

end

def isUnreached (i : Issue) : Bool := i.code = "unreachable_section"

theorem filter_isUnreached_eq_nil {issues : List Issue}
    (h : ∀ i ∈ issues, i.code ≠ "unreachable_section") : issues.filter isUnreached = [] :=
  List.filter_eq_nil_iff.2 fun i hi => by simpa [isUnreached] using h i hi

theorem filter_isUnreached_map (policy : Policy) (unreachable : List Section) :
    (unreachable.map (unreachableIssue policy)).filter isUnreached =
      unreachable.map (unreachableIssue policy) :=
  List.filter_eq_self.2 fun i hi => by
    obtain ⟨s, -, rfl⟩ := List.mem_map.1 hi
    rfl

variable (policy : Policy) (first : Section) (rest : List Section)

def outOfReach : List Section :=
  unreachableSections (first :: rest) ((graphOf (first :: rest)).reachable first.id)

theorem filter_isUnreached_errors :
    (check policy (first :: rest)).errors.filter isUnreached =
      if policy.unreachableIsError then
        (outOfReach first rest).map (unreachableIssue policy) else [] := by
  have hcensus : (census (first :: rest)).errors.filter isUnreached = [] :=
    filter_isUnreached_eq_nil fun i hi heq => by
      simpa [heq, censusCodes] using code_census _ i hi
  have hsections : ((first :: rest).flatMap
      (sectionErrors ((first :: rest).map Section.id))).filter isUnreached = [] := by
    refine filter_isUnreached_eq_nil fun i hi heq => ?_
    obtain ⟨s, -, hs⟩ := List.mem_flatMap.1 hi
    rcases mem_sectionErrors.1 hs with h | ⟨b, -, h⟩
    · simpa [heq, ruleCodes] using (rulingIssues_about h).1
    · simpa [heq] using code_blockErrors h
  have hloops (loops : List (List String)) :
      (loops.map inescapableLoop).filter isUnreached = [] :=
    filter_isUnreached_eq_nil fun i hi heq => by
      obtain ⟨c, -, rfl⟩ := List.mem_map.1 hi
      simp [inescapableLoop, error] at heq
  simp only [check, checkFrom, List.filter_append, hcensus, hsections, hloops, List.nil_append,
    List.append_nil]
  split
  · exact filter_isUnreached_map policy _
  · rfl

theorem filter_isUnreached_warnings :
    (check policy (first :: rest)).warnings.filter isUnreached =
      if policy.unreachableIsError then []
      else (outOfReach first rest).map (unreachableIssue policy) := by
  have hcensus : (census (first :: rest)).warnings.filter isUnreached = [] :=
    filter_isUnreached_eq_nil fun i hi heq => by
      simpa [heq] using code_census_warnings _ i hi
  have hsections : ((first :: rest).flatMap sectionWarnings).filter isUnreached = [] := by
    refine filter_isUnreached_eq_nil fun i hi heq => ?_
    obtain ⟨s, -, hs⟩ := List.mem_flatMap.1 hi
    obtain ⟨b, -, hb⟩ := List.mem_flatMap.1 hs
    simpa [heq] using code_blockWarnings hb
  have hloops (loops : List (List String)) :
      (loops.map escapableLoop).filter isUnreached = [] :=
    filter_isUnreached_eq_nil fun i hi heq => by
      obtain ⟨c, -, rfl⟩ := List.mem_map.1 hi
      simp [escapableLoop, warning] at heq
  have hlast : (terminalWarnings (first :: rest)).filter isUnreached = [] :=
    filter_isUnreached_eq_nil fun i hi heq => by
      simpa [heq] using code_terminalWarnings hi
  have hends : (if (ends (graphOf (first :: rest))).isEmpty then [noTerminal] else []).filter
      isUnreached = [] := by
    split <;> rfl
  simp only [check, checkFrom, List.filter_append, hcensus, hsections, hloops, hlast, hends,
    List.nil_append, List.append_nil]
  split
  · rfl
  · exact filter_isUnreached_map policy _

theorem connected_of_mem_tracePath {answers : Answer.Answers} {id : String}
    (h : id ∈ tracePath (first :: rest) answers none) :
    Connected (first :: rest) first.id id := by
  obtain ⟨next, rounds, ends⟩ := rounds_tracePath (first :: rest) answers none
  have maximal := (following_start.rounds rounds).maximal ends
  rw [← path_graphOf_eq]
  exact Graph.mem_reachable_iff.1 (maximal.reached first.id rfl id h)

/-- The report tells which identifiers are out of reach: it lists them in the order of display,
has one issue for each, of the severity of the policy, and none that a respondent comes to. -/
structure TellsReach (report : Report) : Prop where
  listed : ∀ id, id ∈ report.stats.unreachable ↔
    id ∈ (first :: rest).map Section.id ∧ ¬ Connected (first :: rest) first.id id
  inOrder : report.stats.unreachable.Pairwise fun a b =>
    ((first :: rest).map Section.id).idxOf a < ((first :: rest).map Section.id).idxOf b
  issues : ∃ issues : List Issue,
    issues.map Issue.sectionId = report.stats.unreachable.map some ∧
    (∀ i ∈ issues, i.severity = if policy.unreachableIsError then .error else .warning) ∧
    report.errors.filter isUnreached = (if policy.unreachableIsError then issues else []) ∧
    report.warnings.filter isUnreached = if policy.unreachableIsError then [] else issues
  unvisited : ∀ answers, ∀ id ∈ tracePath (first :: rest) answers none,
    id ∉ report.stats.unreachable

/-- What is reached is what edges lead to, and the report tells exactly what is not. -/
theorem reach_told :
    (∀ id, id ∈ (graphOf (first :: rest)).reachable first.id ↔
      ReflTransGen (graphOf (first :: rest)).Edge first.id id) ∧
    TellsReach policy first rest (check policy (first :: rest)) := by
  have unreachable : (check policy (first :: rest)).stats.unreachable =
      (outOfReach first rest).map Section.id := rfl
  have listed : ∀ id, id ∈ (check policy (first :: rest)).stats.unreachable ↔
      id ∈ (first :: rest).map Section.id ∧ ¬ Connected (first :: rest) first.id id := by
    intro id
    rw [unreachable, outOfReach, mem_unreachable_iff, Graph.mem_reachable_iff, path_graphOf_eq]
  refine ⟨fun id => Graph.mem_reachable_iff, listed, unreachable_inOrder, ?_, ?_⟩
  · refine ⟨(outOfReach first rest).map (unreachableIssue policy), ?_, fun i hi => ?_,
      filter_isUnreached_errors .., filter_isUnreached_warnings ..⟩
    · rw [unreachable, List.map_map, List.map_map]
      rfl
    · obtain ⟨s, -, rfl⟩ := List.mem_map.1 hi
      rfl
  · exact fun answers id hid hmem =>
      ((listed id).1 hmem).2 (connected_of_mem_tracePath first rest hid)

end IntakeForms.Flow
