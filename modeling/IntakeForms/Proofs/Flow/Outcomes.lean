import IntakeForms.Proofs.Flow.WayOut

/-! Where a section can lead.  Whatever is answered, and in whatever form, one is led on by a
live rule, or the form is complete.  When nothing is reported of the rules each of these ends is
reached by answers as plain as they can be: none at all, or one choice that a block offers. -/

namespace IntakeForms.Flow

open Answer

variable {s : Section} {known : List String}

/-- What can follow the section: the fallback, or without one the end of the form, and the
target of every condition that no rule before it has too. -/
inductive Outcome (s : Section) : Option String → Prop
  | fallback {r} : r ∈ s.rules → r.operator = .any → Outcome s (some r.target)
  | complete : Open s → Outcome s none
  | condition {r} : r.operator = .equals → Live s r → Outcome s (some r.target)

/-- Nothing is answered, or one block with one of the choices it offers. -/
inductive Plain (s : Section) : Answers → Prop
  | none : Plain s []
  | choice {source b value} : s.block? source = some b → Offers b value →
      Plain s [(source, .text value)]

theorem outcome_resolveNext (s : Section) (answers : Answers) :
    Outcome s (resolveNext s answers) := by
  cases h : resolveNext s answers with
  | none => exact .complete (exists_resolveNext_eq_none_iff.1 ⟨answers, h⟩)
  | some b =>
    obtain ⟨r, live, rfl⟩ := live_of_resolveNext h
    cases hop : r.operator with
    | any => exact .fallback live.mem hop
    | equals => exact .condition hop live

theorem live_of_fallback (h : fallbackIssues s = []) {r : Rule} (hr : r ∈ s.rules)
    (hop : r.operator = .any) : Live s r := by
  obtain ⟨before, after, hrules⟩ := List.append_of_mem hr
  refine ⟨before, after, hrules, fun q hq hshadow => ?_⟩
  have hcount := fallbackIssues_eq_nil_iff.1 h
  have hqop : q.operator = .any := by rw [hshadow.1, hop]
  have hpos : 0 < (before.filter (·.operator = .any)).length :=
    List.length_pos_of_mem (List.mem_filter.2 ⟨hq, by simp [hqop]⟩)
  rw [hrules, List.filter_append, List.filter_cons_of_pos (by simp [hop]), List.length_append,
    List.length_cons] at hcount
  omega

theorem Outcome.attained (integrity : ruleIntegrity s known = [])
    (fallbacks : fallbackIssues s = []) {o : Option String} (h : Outcome s o) :
    ∃ answers, Plain s answers ∧ resolveNext s answers = o := by
  cases h with
  | fallback hr hop => exact ⟨[], .none, (live_of_fallback fallbacks hr hop).resolveNext_nil hop⟩
  | complete hopen => exact ⟨[], .none, resolveNext_nil_eq_none_iff.2 hopen⟩
  | @condition r hop live =>
    obtain ⟨-, offers⟩ := ruleIntegrity_eq_nil_iff_offersTo.1 integrity
    obtain ⟨source, value, b, hs, hne, hv, hb, hoffers⟩ := offers r live.mem hop
    exact ⟨[(source, .text value)], .choice hb hoffers, live.resolveNext_single hop hs hne hv⟩

/-- Of a section without issues the outcomes are what follows it, over all answers there are
and over plain ones alike. -/
theorem range_resolveNext_eq_outcomes (integrity : ruleIntegrity s known = [])
    (fallbacks : fallbackIssues s = []) :
    Set.range (resolveNext s) = {o | Outcome s o} ∧
      ∀ o, Outcome s o → ∃ answers, Plain s answers ∧ resolveNext s answers = o := by
  refine ⟨Set.Subset.antisymm ?_ ?_, fun o h => h.attained integrity fallbacks⟩
  · rintro _ ⟨answers, rfl⟩
    exact outcome_resolveNext s answers
  · intro o h
    obtain ⟨answers, -, ho⟩ := h.attained integrity fallbacks
    exact ⟨answers, ho⟩

def liking : Section :=
  { id := "taste", title := "", description := none
    blocks := [.imageChoice ⟨"rooms", "", none, true⟩ true [⟨"oak", "", none⟩, ⟨"loft", "", none⟩]]
    rules :=
      [⟨"wood", .equals, some "rooms", some "oak", "warm"⟩,
       ⟨"steel", .equals, some "rooms", some "loft", "cool"⟩,
       ⟨"late", .equals, some "rooms", some "oak", "never"⟩,
       ⟨"else", .any, none, none, "done"⟩] }

theorem not_outcome_liking : ¬ Outcome liking (some "never") := by
  intro h
  generalize ho : some "never" = o at h
  cases h with
  | fallback hr hop =>
    simp only [liking, List.mem_cons, List.not_mem_nil, or_false] at hr
    rcases hr with rfl | rfl | rfl | rfl <;> simp at hop ho
  | complete => cases ho
  | @condition r _ live =>
    obtain ⟨before, after, hrules, hbefore⟩ := live
    cases before with
    | nil =>
      obtain ⟨rfl, -⟩ := List.cons.inj hrules
      simp at ho
    | cons q before =>
      rw [liking, List.cons_append, List.cons.injEq] at hrules
      obtain ⟨rfl, hrest⟩ := hrules
      have hr : r ∈ before ++ r :: after := by simp
      rw [← hrest] at hr
      simp only [List.mem_cons, List.not_mem_nil, or_false] at hr
      rcases hr with rfl | rfl | rfl
      · simp at ho
      · exact hbefore _ (List.mem_cons_self ..) ⟨rfl, fun _ => ⟨rfl, rfl⟩⟩
      · simp at ho

theorem range_resolveNext_liking :
    ruleIntegrity liking ["warm", "cool", "never", "done"] = [] ∧ fallbackIssues liking = [] ∧
      Set.range (resolveNext liking) = {o | Outcome liking o} ∧
        some "cool" ∈ Set.range (resolveNext liking) ∧
          some "never" ∉ Set.range (resolveNext liking) := by
  have integrity : ruleIntegrity liking ["warm", "cool", "never", "done"] = [] := by decide
  have fallbacks : fallbackIssues liking = [] := by decide
  have range := (range_resolveNext_eq_outcomes integrity fallbacks).1
  refine ⟨integrity, fallbacks, range, range ▸ ?_, range ▸ not_outcome_liking⟩
  exact .condition (r := ⟨"steel", .equals, some "rooms", some "loft", "cool"⟩) rfl
    ⟨[_], _, rfl, by simp [Shadows]⟩

end IntakeForms.Flow
