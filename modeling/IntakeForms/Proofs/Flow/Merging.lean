import IntakeForms.Proofs.Flow.Findings
import IntakeForms.Proofs.Flow.WayOut
import IntakeForms.Proposal

/-! What comes of a proposal without issues.  It is checked against one section of each
identifier, the last, and merged into all of them.  Targets and fallbacks are the same for all; so
the merged sections are free of issues exactly when the others can answer the rules too, which
they need not when a draft uses an identifier twice. -/

namespace IntakeForms

namespace Proposal

open IntakeForms.Flow

variable {p : Proposal} {sections : List Section}

/-- The proposal has rules for the sections of the identifier. -/
def Names (p : Proposal) (id : String) : Prop := ∃ entry ∈ p.routing, entry.sectionId = id

/-- What becomes of a section: the rules that are proposed for its identifier take the place of
its own, and a section that is not named stays as it is. -/
def Merges (p : Proposal) (s t : Section) : Prop :=
  (∀ entry ∈ p.routing, entry.sectionId = s.id → t = s.withRules entry.rules) ∧
    (¬ p.Names s.id → t = s)

/-- Sections that are hidden from the check, by a later one of the same identifier, offer what the
rules proposed for them wait for. -/
def Covers (p : Proposal) (sections : List Section) : Prop :=
  ∀ s ∈ sections, sectionAt? sections s.id ≠ some s →
    ∀ entry ∈ p.routing, entry.sectionId = s.id →
      ∀ r ∈ entry.rules, r.operator = .equals → OffersTo s r

theorem covers_of_nodup (hn : (sections.map Section.id).Nodup) : p.Covers sections :=
  fun _ hs hhidden => absurd ((sectionAt?_eq_some_iff hn).2 ⟨hs, rfl⟩) hhidden

/-- A proposal has no issue when it names sections once each, and its rules have no issue in
the sections that are looked up. -/
theorem issuesFrom_eq_nil_iff {known proposed : List String} {routing : List SectionRouting} :
    issuesFrom sections known proposed routing = [] ↔
      (routing.map SectionRouting.sectionId).Nodup ∧
        ∀ entry ∈ routing, entry.sectionId ∉ proposed ∧
          ∃ s, sectionAt? sections entry.sectionId = some s ∧
            rulingIssues known (s.withRules entry.rules) = [] := by
  induction routing generalizing proposed with
  | nil => simp [issuesFrom]
  | cons entry rest ih =>
    rw [List.map_cons, List.nodup_cons, List.forall_mem_cons, issuesFrom]
    cases hs : sectionAt? sections entry.sectionId with
    | none => simp
    | some s =>
      by_cases hp : entry.sectionId ∈ proposed
      · simp [hp]
      · simp only [hp, if_false]
        rw [List.append_eq_nil_iff, ih]
        simp only [List.mem_cons, not_or, not_false_eq_true, true_and, Option.some.injEq,
          exists_eq_left', List.mem_map, not_exists, not_and]
        constructor
        · rintro ⟨hnil, hn, hrest⟩
          exact ⟨⟨fun e he => (hrest e he).1.1, hn⟩, hnil,
            fun e he => ⟨(hrest e he).1.2, (hrest e he).2⟩⟩
        · rintro ⟨⟨hnew, hn⟩, hnil, hrest⟩
          exact ⟨hnil, hn, fun e he => ⟨⟨hnew e he, (hrest e he).1⟩, (hrest e he).2⟩⟩

theorem issues_eq_nil_iff :
    p.issues sections = [] ↔
      (p.routing.map SectionRouting.sectionId).Nodup ∧
        ∀ entry ∈ p.routing, ∃ s, sectionAt? sections entry.sectionId = some s ∧
          rulingIssues (sections.map Section.id) (s.withRules entry.rules) = [] := by
  simp [issues, issuesFrom_eq_nil_iff]

section

variable (h : p.issues sections = [])
include h

theorem rulesFor?_eq_some {entry : SectionRouting} (hentry : entry ∈ p.routing) :
    p.rulesFor? entry.sectionId = some entry.rules := by
  have hn : (p.routing.reverse.map SectionRouting.sectionId).Nodup := by
    rw [List.map_reverse]
    exact List.nodup_reverse.2 (issues_eq_nil_iff.1 h).1
  rw [rulesFor?, (find?_key_eq_some_iff hn).2 ⟨List.mem_reverse.2 hentry, rfl⟩]
  rfl

theorem merges_applyTo (s : Section) : p.Merges s (p.applyTo s) := by
  constructor
  · intro entry hentry hid
    rw [applyTo, ← hid, rulesFor?_eq_some h hentry]
  · intro hnot
    have hnone : p.rulesFor? s.id = none := by
      rw [rulesFor?, Option.map_eq_none_iff, List.find?_eq_none]
      intro e he hid
      exact hnot ⟨e, List.mem_reverse.1 he, by simpa using hid⟩
    rw [applyTo, hnone]

theorem rulingIssues_withRules {s : Section} {entry : SectionRouting} (hentry : entry ∈ p.routing) :
    rulingIssues (sections.map Section.id) (s.withRules entry.rules) = [] ↔
      ∀ r ∈ entry.rules, r.operator = .equals → OffersTo s r := by
  obtain ⟨t, -, ht⟩ := (issues_eq_nil_iff.1 h).2 entry hentry
  obtain ⟨hrules, hfallback⟩ := rulingIssues_eq_nil_iff.1 ht
  have htargets := (ruleIntegrity_eq_nil_iff_offersTo.1 hrules).1
  rw [fallbackIssues_eq_nil_iff] at hfallback
  rw [rulingIssues_eq_nil_iff, ruleIntegrity_eq_nil_iff_offersTo, fallbackIssues_eq_nil_iff]
  exact ⟨fun hs => hs.1.2, fun hs => ⟨⟨htargets, hs⟩, hfallback⟩⟩

theorem clean_iff_covers :
    (∀ s ∈ sections, p.Names s.id → rulingIssues (sections.map Section.id) (p.applyTo s) = []) ↔
      p.Covers sections := by
  constructor
  · intro hclean s hs _ entry hentry hid
    have hnil := hclean s hs ⟨entry, hentry, hid⟩
    rw [(merges_applyTo h s).1 entry hentry hid] at hnil
    exact (rulingIssues_withRules h hentry).1 hnil
  · rintro hcovers s hs ⟨entry, hentry, hid⟩
    rw [(merges_applyTo h s).1 entry hentry hid]
    by_cases hseen : sectionAt? sections s.id = some s
    · obtain ⟨t, ht, hnil⟩ := (issues_eq_nil_iff.1 h).2 entry hentry
      rw [hid, hseen] at ht
      rwa [Option.some.inj ht]
    · exact (rulingIssues_withRules h hentry).2 (hcovers s hs hseen entry hentry hid)

end

@[simp] theorem applyTo_id (p : Proposal) (s : Section) : (p.applyTo s).id = s.id := by
  unfold applyTo
  split <;> rfl

@[simp] theorem apply_ids (p : Proposal) (sections : List Section) :
    (p.apply sections).map Section.id = sections.map Section.id := by
  simp [apply, Function.comp_def]

/-- A proposal without issues replaces the rules of all sections that it names and of no others.
What it replaces is free of issues, and nothing is reported of rules that was not reported of a
section outside the proposal, exactly when no section that the check passes over lacks what the
rules wait for. -/
theorem merged_clean_iff (policy : Policy) (h : p.issues sections = []) :
    List.Forall₂ p.Merges sections (p.apply sections) ∧
    ((∀ t ∈ p.apply sections, p.Names t.id →
        ruleIntegrity t ((p.apply sections).map Section.id) = [] ∧ fallbackIssues t = []) ↔
      p.Covers sections) ∧
    ((∀ i ∈ (check policy (p.apply sections)).errors, i.code ∈ ruleCodes →
        i ∈ (check policy sections).errors ∧
          ∃ s ∈ sections, ¬ p.Names s.id ∧ i.sectionId = some s.id) ↔
      p.Covers sections) := by
  have hmerged : (∀ t ∈ p.apply sections, p.Names t.id →
      rulingIssues (sections.map Section.id) t = []) ↔ p.Covers sections := by
    rw [← clean_iff_covers h, apply, List.forall_mem_map]
    simp only [applyTo_id]
  refine ⟨?merges, ?clean, ?report⟩
  case merges =>
    exact List.forall₂_map_right_iff.2 (List.forall₂_same.2 fun s _ => merges_applyTo h s)
  case clean => simpa only [apply_ids, rulingIssues_eq_nil_iff] using hmerged
  case report =>
    rw [← hmerged]
    constructor
    · intro hreport t ht hnames
      refine List.eq_nil_iff_forall_not_mem.2 fun i hi => ?_
      obtain ⟨hcode, hid⟩ := rulingIssues_about hi
      have hmem : i ∈ (check policy (p.apply sections)).errors :=
        (mem_check_errors_iff policy _ hcode).2 ⟨t, ht, by rwa [apply_ids]⟩
      obtain ⟨-, s, -, hnot, hsid⟩ := hreport i hmem hcode
      rw [hid, Option.some.injEq] at hsid
      exact hnot (hsid ▸ hnames)
    · intro hclean i hi hcode
      obtain ⟨t, ht, hti⟩ := (mem_check_errors_iff policy _ hcode).1 hi
      rw [apply_ids] at hti
      have hnot : ¬ p.Names t.id := fun hnames => by simp [hclean t ht hnames] at hti
      obtain ⟨s, hs, rfl⟩ := List.mem_map.1 ht
      rw [applyTo_id] at hnot
      rw [(merges_applyTo h s).2 hnot] at hti
      exact ⟨(mem_check_errors_iff policy _ hcode).2 ⟨s, hs, hti⟩, s, hs, hnot,
        (rulingIssues_about hti).2⟩

def plans : Section where
  id := "start"
  title := ""
  description := none
  blocks := [.question ⟨"plan", "", none, false⟩ .select (some ["Basic", "Pro"])]
  rules := []

/-- A section without blocks. -/
def blank (id : String) : Section where
  id := id
  title := ""
  description := none
  blocks := []
  rules := []

def skipping : Proposal where
  routing := [⟨"start", [⟨"pro", .equals, some "plan", some "Pro", "done"⟩]⟩]
  explanation := none

theorem merged_clean_plans :
    skipping.issues [plans, blank "done"] = [] ∧
      (∀ t ∈ skipping.apply [plans, blank "done"], skipping.Names t.id →
        ruleIntegrity t ["start", "done"] = [] ∧ fallbackIssues t = []) ∧
      ∀ i ∈ (check {} (skipping.apply [plans, blank "done"])).errors, i.code ∈ ruleCodes →
        i ∈ (check {} [plans, blank "done"]).errors := by
  have h : skipping.issues [plans, blank "done"] = [] := by decide
  obtain ⟨-, hclean, hreport⟩ := merged_clean_iff {} h
  have hcovers : skipping.Covers [plans, blank "done"] := covers_of_nodup (by decide)
  exact ⟨h, hclean.2 hcovers, fun i hi hcode => (hreport.2 hcovers i hi hcode).1⟩

/-- Of two sections with one identifier the proposal is checked against the second and breaks
the first. -/
theorem hidden_section_breaks :
    skipping.issues [blank "start", plans, blank "done"] = [] ∧
      ∃ i ∈ (check {} (skipping.apply [blank "start", plans, blank "done"])).errors,
        i.code = "missing_source_block" ∧
          i ∉ (check {} [blank "start", plans, blank "done"]).errors := by
  refine ⟨by decide, missingSource (blank "start")
    ⟨"pro", .equals, some "plan", some "Pro", "done"⟩ "plan", ?_, rfl, ?_⟩
  · exact (mem_check_errors_iff {} _ (by decide)).2 (by decide)
  · exact fun hi => absurd ((mem_check_errors_iff {} _ (by decide)).1 hi) (by decide)

end Proposal

end IntakeForms
