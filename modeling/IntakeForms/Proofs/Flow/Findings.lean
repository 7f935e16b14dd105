import IntakeForms.Proofs.Flow.Publishable

/-! Which pass of the check an error comes from.  The passes have no code in common, so an
error is traced back by its code: errors on rules are what is reported of the rules of one
section, and a loop without a way out is one that the search closed. -/

namespace IntakeForms.Flow

/-- The codes of what is reported of rules and fallbacks. -/
def ruleCodes : List String :=
  ["missing_target_section", "incomplete_rule", "missing_source_block", "non_answer_block",
    "non_choice_block", "invalid_rule_value", "duplicate_fallback"]

def rulingIssues (known : List String) (s : Section) : List Issue :=
  ruleIntegrity s known ++ fallbackIssues s

theorem rulingIssues_eq_nil_iff {known : List String} {s : Section} :
    rulingIssues known s = [] ↔ ruleIntegrity s known = [] ∧ fallbackIssues s = [] :=
  List.append_eq_nil_iff

theorem conditionIssue?_about {s : Section} {r : Rule} {i : Issue}
    (h : conditionIssue? s r = some i) : i.code ∈ ruleCodes ∧ i.sectionId = some s.id := by
  unfold conditionIssue? at h
  split at h
  · split at h
    · obtain rfl := Option.some.inj h
      exact ⟨by simp [ruleCodes, missingSource, error], rfl⟩
    · split_ifs at h
      · split at h
        · obtain rfl := Option.some.inj h
          exact ⟨by simp [ruleCodes, noChoice, error], rfl⟩
        · split_ifs at h
          obtain rfl := Option.some.inj h
          exact ⟨by simp [ruleCodes, invalidValue, error], rfl⟩
      · obtain rfl := Option.some.inj h
        exact ⟨by simp [ruleCodes, noAnswer, error], rfl⟩
  · obtain rfl := Option.some.inj h
    exact ⟨by simp [ruleCodes, incompleteRule, error], rfl⟩

theorem rulingIssues_about {known : List String} {s : Section} {i : Issue}
    (h : i ∈ rulingIssues known s) : i.code ∈ ruleCodes ∧ i.sectionId = some s.id := by
  rcases List.mem_append.1 h with h | h
  · obtain ⟨r, -, hr⟩ := List.mem_flatMap.1 h
    rcases List.mem_append.1 hr with hr | hr
    · split at hr
      · cases hr
      · obtain rfl := List.mem_singleton.1 hr
        exact ⟨by simp [ruleCodes, missingTarget, error], rfl⟩
    · split at hr
      · exact conditionIssue?_about (Option.mem_toList.1 hr)
      · cases hr
  · unfold fallbackIssues at h
    split at h
    · obtain rfl := List.mem_singleton.1 h
      exact ⟨by simp [ruleCodes, duplicateFallback, error], rfl⟩
    · cases h

def censusCodes : List String := ["duplicate_section", "duplicate_block"]

theorem code_countBlock {s : Section} {c : Census} (h : ∀ i ∈ c.errors, i.code ∈ censusCodes)
    (b : Block) : ∀ i ∈ (countBlock s c b).errors, i.code ∈ censusCodes := by
  rw [(countBlock_fields s c b).2.2]
  split
  · refine List.forall_mem_append.2 ⟨h, ?_⟩
    simp [duplicateBlock, error, censusCodes]
  · exact h

theorem code_countSection {c : Census} (h : ∀ i ∈ c.errors, i.code ∈ censusCodes)
    (s : Section) : ∀ i ∈ (countSection c s).errors, i.code ∈ censusCodes := by
  unfold countSection
  refine List.foldlRecOn (motive := fun c => ∀ i ∈ c.errors, i.code ∈ censusCodes) s.blocks
    (countBlock s) ?_ fun _ hc b _ => code_countBlock hc b
  dsimp only
  split
  · refine List.forall_mem_append.2 ⟨h, ?_⟩
    simp [duplicateSection, error, censusCodes]
  · exact h

theorem code_census (sections : List Section) :
    ∀ i ∈ (census sections).errors, i.code ∈ censusCodes :=
  List.foldlRecOn (motive := fun c => ∀ i ∈ c.errors, i.code ∈ censusCodes) sections countSection
    (by simp) fun _ hc s _ => code_countSection hc s

theorem code_countBlock_warnings {s : Section} {c : Census}
    (h : ∀ i ∈ c.warnings, i.code = "shared_block_id") (b : Block) :
    ∀ i ∈ (countBlock s c b).warnings, i.code = "shared_block_id" := by
  unfold countBlock
  dsimp only
  split_ifs
  · exact h
  · split
    · exact h
    · split_ifs
      · exact h
      · exact List.forall_mem_append.2 ⟨h, by simp [sharedBlock, warning]⟩

theorem code_countSection_warnings {c : Census} (h : ∀ i ∈ c.warnings, i.code = "shared_block_id")
    (s : Section) : ∀ i ∈ (countSection c s).warnings, i.code = "shared_block_id" := by
  unfold countSection
  refine List.foldlRecOn (motive := fun c => ∀ i ∈ c.warnings, i.code = "shared_block_id") s.blocks
    (countBlock s) ?_ fun _ hc b _ => code_countBlock_warnings hc b
  exact h

theorem code_census_warnings (sections : List Section) :
    ∀ i ∈ (census sections).warnings, i.code = "shared_block_id" :=
  List.foldlRecOn (motive := fun c => ∀ i ∈ c.warnings, i.code = "shared_block_id") sections
    countSection (by simp) fun _ hc s _ => code_countSection_warnings hc s

theorem code_blockErrors {s : Section} {b : Block} {i : Issue} (h : i ∈ blockErrors s b) :
    i.code = "invalid_booking_url" := by
  unfold blockErrors at h
  split at h
  · split_ifs at h
    · rw [List.mem_singleton.1 h]
      rfl
    · cases h
    · rw [List.mem_singleton.1 h]
      rfl
  · cases h

theorem code_blockWarnings {s : Section} {b : Block} {i : Issue} (h : i ∈ blockWarnings s b) :
    i.code = "link_max_items" ∨ i.code = "sparse_options" := by
  unfold blockWarnings at h
  split at h
  · split_ifs at h
    · exact .inl (List.mem_singleton.1 h ▸ rfl)
    · cases h
  · split at h
    · split_ifs at h
      · exact .inr (List.mem_singleton.1 h ▸ rfl)
      · cases h
    · cases h

theorem code_terminalWarnings {sections : List Section} {i : Issue}
    (h : i ∈ terminalWarnings sections) : i.code = "terminal_has_routes" := by
  unfold terminalWarnings at h
  split at h
  · split_ifs at h
    · cases h
    · exact List.mem_singleton.1 h ▸ rfl
  · cases h

/-- The pass that finds an error in a flow that begins at `first`. -/
inductive Origin (policy : Policy) (first : Section) (sections : List Section) : Issue → Prop
  | census {i} : i ∈ (census sections).errors → Origin policy first sections i
  | rules {s i} : s ∈ sections → i ∈ rulingIssues (sections.map Section.id) s →
      Origin policy first sections i
  | block {s b i} : s ∈ sections → b ∈ s.blocks → i ∈ blockErrors s b →
      Origin policy first sections i
  | unreachable {s} : policy.unreachableIsError = true →
      s ∈ unreachableSections sections ((graphOf sections).reachable first.id) →
      Origin policy first sections (unreachableIssue policy s)
  | loop {c} : c ∈ (graphOf sections).cycles first.id →
      (∀ x ∈ c, x ∉ (graphOf sections).canFinish (openEnded sections)) →
      Origin policy first sections (inescapableLoop c)

theorem mem_sectionErrors {known : List String} {s : Section} {i : Issue} :
    i ∈ sectionErrors known s ↔ i ∈ rulingIssues known s ∨ ∃ b ∈ s.blocks, i ∈ blockErrors s b := by
  rw [sectionErrors, List.mem_append, List.mem_flatMap]
  rfl

theorem escapes_eq_false_iff {finish c : List String} :
    escapes finish c = false ↔ ∀ x ∈ c, x ∉ finish := by
  simp [escapes]

theorem mem_errors_iff {policy : Policy} {first : Section} {rest : List Section} {i : Issue} :
    i ∈ (check policy (first :: rest)).errors ↔ Origin policy first (first :: rest) i := by
  simp only [check, checkFrom, List.mem_append, List.mem_flatMap, mem_sectionErrors, List.mem_map,
    List.mem_filter, Bool.not_eq_true', escapes_eq_false_iff]
  constructor
  · rintro (((h | ⟨s, hs, h | ⟨b, hb, h⟩⟩) | h) | ⟨c, ⟨hc, hout⟩, rfl⟩)
    · exact .census h
    · exact .rules hs h
    · exact .block hs hb h
    · split at h
      · next hpolicy =>
        obtain ⟨s, hs, rfl⟩ := List.mem_map.1 h
        exact .unreachable hpolicy hs
      · cases h
    · exact .loop hc hout
  · intro origin
    cases origin with
    | census h => exact .inl (.inl (.inl h))
    | rules hs h => exact .inl (.inl (.inr ⟨_, hs, .inl h⟩))
    | block hs hb h => exact .inl (.inl (.inr ⟨_, hs, .inr ⟨_, hb, h⟩⟩))
    | unreachable hpolicy hs =>
      refine .inl (.inr ?_)
      rw [if_pos hpolicy]
      exact List.mem_map_of_mem hs
    | loop hc hout => exact .inr ⟨_, ⟨hc, hout⟩, rfl⟩

theorem mem_check_errors_iff (policy : Policy) (sections : List Section) {i : Issue}
    (hcode : i.code ∈ ruleCodes) :
    i ∈ (check policy sections).errors ↔
      ∃ s ∈ sections, i ∈ rulingIssues (sections.map Section.id) s := by
  cases sections with
  | nil =>
    refine ⟨fun h => ?_, fun h => by simp at h⟩
    rw [List.mem_singleton.1 h] at hcode
    simp [error, ruleCodes] at hcode
  | cons first rest =>
    rw [mem_errors_iff]
    refine ⟨fun origin => ?_, fun ⟨s, hs, h⟩ => .rules hs h⟩
    cases origin with
    | census h =>
      have hcensus := code_census _ i h
      simp only [censusCodes, List.mem_cons, List.not_mem_nil, or_false] at hcensus
      rcases hcensus with heq | heq <;> simp [heq, ruleCodes] at hcode
    | rules hs h => exact ⟨_, hs, h⟩
    | block _ _ h => simp [code_blockErrors h, ruleCodes] at hcode
    | unreachable => simp [unreachableIssue, ruleCodes] at hcode
    | loop => simp [inescapableLoop, error, ruleCodes] at hcode

/-- A loop that is reported as an error was closed by the search and holds no node from which
the flow can be completed. -/
theorem mem_check_loops_iff (policy : Policy) (sections : List Section) {i : Issue}
    (hcode : i.code = "inescapable_cycle") :
    i ∈ (check policy sections).errors ↔
      ∃ first ∈ sections.head?, ∃ c ∈ (graphOf sections).cycles first.id,
        (∀ x ∈ c, x ∉ (graphOf sections).canFinish (openEnded sections)) ∧
          i = inescapableLoop c := by
  cases sections with
  | nil =>
    refine ⟨fun h => ?_, fun h => by simp at h⟩
    rw [List.mem_singleton.1 h] at hcode
    simp [error] at hcode
  | cons first rest =>
    rw [mem_errors_iff]
    constructor
    · intro origin
      cases origin with
      | census h => simpa [hcode, censusCodes] using code_census _ i h
      | rules _ h => simpa [hcode, ruleCodes] using (rulingIssues_about h).1
      | block _ _ h => simpa [hcode] using code_blockErrors h
      | unreachable => simp [unreachableIssue] at hcode
      | loop hc hout => exact ⟨first, rfl, _, hc, hout, rfl⟩
    · rintro ⟨_, hfirst, c, hc, hout, rfl⟩
      obtain rfl := Option.some.inj hfirst
      exact .loop hc hout

end IntakeForms.Flow
