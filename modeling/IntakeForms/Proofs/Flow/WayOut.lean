import IntakeForms.Proofs.Flow.Publishable
import Mathlib

/-! Where respondents can be led, and whether they come to an end.  Of two rules of a
section with the same condition only the first ever leads anywhere, while the check
counts both as ways on.  A flow that passes the check lets everyone finish exactly
when the rules that are not shadowed have a way out wherever they lead. -/

namespace IntakeForms.Flow

open Relation Answer

def Led (sections : List Section) (a b : String) : Prop :=
  ∃ answers, resolveAt sections answers a = some b

/-- Respondents can be led there from the first section. -/
def LedTo (sections : List Section) (id : String) : Prop :=
  ∃ first ∈ sections.head?, ReflTransGen (Led sections) first.id id

/-- Resolves section after section, each with answers of its own; none once the form is
complete. -/
def follow (sections : List Section) : List Answers → String → Option String
  | [], id => some id
  | answers :: rest, id => (resolveAt sections answers id).bind (follow sections rest)

def Shadows (q r : Rule) : Prop :=
  q.operator = r.operator ∧ (r.operator = .equals → q.source = r.source ∧ q.value = r.value)

def Live (s : Section) (r : Rule) : Prop :=
  ∃ before after, s.rules = before ++ r :: after ∧ ∀ q ∈ before, ¬ Shadows q r

/-- A live rule of the section `a` has the target `b`. -/
def LiveLeads (sections : List Section) (a b : String) : Prop :=
  ∃ s ∈ sections, s.id = a ∧ ∃ r, Live s r ∧ r.target = b

theorem operator_of_ruleHolds {answers : Answers} {r : Rule} (h : ruleHolds answers r = true) :
    r.operator = .equals := by
  unfold ruleHolds sourceOf? at h
  cases hop : r.operator with
  | equals => rfl
  | any => simp [hop] at h

theorem ruleHolds_of_shadows {answers : Answers} {q r : Rule} (h : Shadows q r)
    (hr : ruleHolds answers r = true) : ruleHolds answers q = true := by
  have hop := operator_of_ruleHolds hr
  obtain ⟨hsource, hvalue⟩ := h.2 hop
  unfold ruleHolds sourceOf? at hr ⊢
  rwa [h.1, hsource, hvalue]

theorem ruleHolds_nil (r : Rule) : ruleHolds [] r = false := by
  unfold ruleHolds
  split <;> rfl

theorem ruleHolds_single {source value : String} {r : Rule} :
    ruleHolds [(source, .text value)] r = true ↔
      sourceOf? r = some source ∧ r.value = some value := by
  unfold ruleHolds
  split
  · next b v hb hv =>
    by_cases hs : source = b
    · simp [Entries.get?, answerMatches, hb, hv, hs, @eq_comm String value]
    · have hne : b ≠ source := fun h => hs h.symm
      simp [Entries.get?, answerMatches, hb, hs, hne]
  · next hnone => exact ⟨fun h => by simp at h, fun h => (hnone _ _ h.1 h.2).elim⟩

theorem resolveNext_nil (s : Section) :
    resolveNext s [] = (matchFallback s.rules).map Rule.target := by
  have hnone : matchConditional s.rules [] = none :=
    List.find?_eq_none.2 fun r _ => by simp [ruleHolds_nil]
  simp [resolveNext, hnone]

theorem live_of_resolveNext {s : Section} {answers : Answers} {b : String}
    (h : resolveNext s answers = some b) : ∃ r, Live s r ∧ r.target = b := by
  obtain ⟨r, hr, rfl⟩ := Option.map_eq_some_iff.1 h
  refine ⟨r, ?_, rfl⟩
  cases hc : matchConditional s.rules answers with
  | some r' =>
    obtain rfl : r' = r := by simpa [hc] using hr
    obtain ⟨holds, before, after, hrules, hbefore⟩ := List.find?_eq_some_iff_append.1 hc
    refine ⟨before, after, hrules, fun q hq hshadow => ?_⟩
    simpa [ruleHolds_of_shadows hshadow holds] using hbefore q hq
  | none =>
    have hf : matchFallback s.rules = some r := by simpa [hc] using hr
    obtain ⟨hany, before, after, hrules, hbefore⟩ := List.find?_eq_some_iff_append.1 hf
    refine ⟨before, after, hrules, fun q hq hshadow => ?_⟩
    have hqany : q.operator = .any := by simpa [Rule.isFallback, hshadow.1] using hany
    simpa [Rule.isFallback, hqany] using hbefore q hq

theorem Live.mem {s : Section} {r : Rule} (h : Live s r) : r ∈ s.rules := by
  obtain ⟨before, after, hrules, -⟩ := h
  simp [hrules]

theorem Live.resolveNext_nil {s : Section} {r : Rule} (h : Live s r) (hop : r.operator = .any) :
    resolveNext s [] = some r.target := by
  obtain ⟨before, after, hrules, hbefore⟩ := h
  have hf : matchFallback s.rules = some r := by
    refine List.find?_eq_some_iff_append.2 ⟨by simp [Rule.isFallback, hop], before, after,
      hrules, fun q hq => ?_⟩
    have hne : q.operator ≠ .any := fun h => hbefore q hq ⟨by rw [h, hop], by simp [hop]⟩
    simp [Rule.isFallback, hne]
  simp [Flow.resolveNext_nil, hf]

theorem Live.resolveNext_single {s : Section} {r : Rule} (h : Live s r)
    (hop : r.operator = .equals) {source value : String} (hs : r.source = some source)
    (hne : source ≠ "") (hv : r.value = some value) :
    resolveNext s [(source, .text value)] = some r.target := by
  obtain ⟨before, after, hrules, hbefore⟩ := h
  have hsource := (sourceOf?_eq_some_iff hop).2 ⟨hs, hne⟩
  have hc : matchConditional s.rules [(source, .text value)] = some r := by
    refine List.find?_eq_some_iff_append.2 ⟨ruleHolds_single.2 ⟨hsource, hv⟩, before, after,
      hrules, fun q hq => ?_⟩
    have hfalse : ¬ ruleHolds [(source, .text value)] q = true := by
      intro holds
      have hqop := operator_of_ruleHolds holds
      obtain ⟨hqs, hqv⟩ := ruleHolds_single.1 holds
      have hqs := ((sourceOf?_eq_some_iff hqop).1 hqs).1
      exact hbefore q hq ⟨hqop.trans hop.symm, fun _ => ⟨hqs.trans hs.symm, hqv.trans hv.symm⟩⟩
    simpa using hfalse
  simp [resolveNext, hc]

theorem exists_resolveNext_iff {s : Section}
    (answerable : ∀ r ∈ s.rules, r.operator = .equals → Answerable s r) {b : String} :
    (∃ answers, resolveNext s answers = some b) ↔ ∃ r, Live s r ∧ r.target = b := by
  constructor
  · rintro ⟨answers, h⟩
    exact live_of_resolveNext h
  · rintro ⟨r, live, rfl⟩
    cases hop : r.operator with
    | any => exact ⟨[], live.resolveNext_nil hop⟩
    | equals =>
      obtain ⟨source, value, hs, hne, hv, -⟩ := answerable r live.mem hop
      exact ⟨[(source, .text value)], live.resolveNext_single hop hs hne hv⟩

theorem matchFallback_eq_none_iff {s : Section} : matchFallback s.rules = none ↔ Open s := by
  simp [matchFallback, Rule.isFallback, Open]

theorem resolveNext_nil_eq_none_iff {s : Section} : resolveNext s [] = none ↔ Open s := by
  rw [resolveNext_nil, Option.map_eq_none_iff, matchFallback_eq_none_iff]

theorem exists_resolveNext_eq_none_iff {s : Section} :
    (∃ answers, resolveNext s answers = none) ↔ Open s := by
  constructor
  · rintro ⟨answers, h⟩
    have hor := Option.map_eq_none_iff.1 h
    exact matchFallback_eq_none_iff.1 (Option.or_eq_none_iff.1 hor).2
  · intro h
    exact ⟨[], resolveNext_nil_eq_none_iff.2 h⟩

section

variable {policy : Policy} {sections : List Section}

theorem find?_id_eq_some_iff (hn : (sections.map Section.id).Nodup) {id : String} {s : Section} :
    sections.find? (·.id = id) = some s ↔ s ∈ sections ∧ s.id = id :=
  find?_key_eq_some_iff hn

theorem sectionAt?_eq_some_iff (hn : (sections.map Section.id).Nodup) {id : String} {s : Section} :
    sectionAt? sections id = some s ↔ s ∈ sections ∧ s.id = id := by
  have hreverse : (sections.reverse.map Section.id).Nodup := by
    rw [List.map_reverse]
    exact List.nodup_reverse.2 hn
  rw [sectionAt?, find?_id_eq_some_iff hreverse, List.mem_reverse]

theorem resolveAt_id (hn : (sections.map Section.id).Nodup) {s : Section} (hs : s ∈ sections)
    (answers : Answers) : resolveAt sections answers s.id = resolveNext s answers := by
  simp [resolveAt, (sectionAt?_eq_some_iff hn).2 ⟨hs, rfl⟩]

theorem led_eq_liveLeads (h : Publishable policy sections) : Led sections = LiveLeads sections := by
  funext a b
  refine propext ⟨?_, ?_⟩
  · rintro ⟨answers, hled⟩
    obtain ⟨s, hs, hb⟩ := Option.bind_eq_some_iff.1 hled
    obtain ⟨hmem, rfl⟩ := (sectionAt?_eq_some_iff h.sectionIds).1 hs
    exact ⟨s, hmem, rfl, (exists_resolveNext_iff (h.answerable s hmem)).1 ⟨answers, hb⟩⟩
  · rintro ⟨s, hs, rfl, hlive⟩
    obtain ⟨answers, hb⟩ := (exists_resolveNext_iff (h.answerable s hs)).2 hlive
    exact ⟨answers, (resolveAt_id h.sectionIds hs answers).trans hb⟩

theorem Publishable.target_of_resolveNext (h : Publishable policy sections) {s : Section}
    (hs : s ∈ sections) {answers : Answers} {b : String} (hb : resolveNext s answers = some b) :
    ∃ t ∈ sections, t.id = b := by
  obtain ⟨r, live, rfl⟩ := live_of_resolveNext hb
  exact h.targets s hs r live.mem

theorem liveLeads_leads {a b : String} (h : LiveLeads sections a b) : Leads sections a b := by
  obtain ⟨s, hs, hid, r, live, htarget⟩ := h
  exact ⟨s, hs, hid, r, live.mem, htarget⟩

theorem Publishable.exists_section (h : Publishable policy sections) {a b : String}
    (ha : ∃ s ∈ sections, s.id = a) (path : ReflTransGen (LiveLeads sections) a b) :
    ∃ s ∈ sections, s.id = b := by
  induction path with
  | refl => exact ha
  | tail _ step _ =>
    obtain ⟨s, hs, -, r, hr, rfl⟩ := liveLeads_leads step
    exact h.targets s hs r hr

theorem exists_follow_eq_none_iff (h : Publishable policy sections) {id : String}
    (hid : ∃ s ∈ sections, s.id = id) :
    (∃ answers, follow sections answers id = none) ↔
      ∃ t ∈ sections, Open t ∧ ReflTransGen (LiveLeads sections) id t.id := by
  constructor
  · rintro ⟨answers, hnone⟩
    induction answers generalizing id with
    | nil => simp [follow] at hnone
    | cons a rest ih =>
      obtain ⟨s, hs, rfl⟩ := hid
      cases hb : resolveAt sections a s.id with
      | none =>
        rw [resolveAt_id h.sectionIds hs] at hb
        exact ⟨s, hs, exists_resolveNext_eq_none_iff.1 ⟨a, hb⟩, .refl⟩
      | some b =>
        have step : LiveLeads sections s.id b := led_eq_liveLeads h ▸ ⟨a, hb⟩
        have hrest : follow sections rest b = none := by simpa [follow, hb] using hnone
        obtain ⟨t, ht, hopen, path⟩ := ih (h.exists_section ⟨s, hs, rfl⟩ (.single step)) hrest
        exact ⟨t, ht, hopen, .head step path⟩
  · rintro ⟨t, ht, hopen, path⟩
    induction path using ReflTransGen.head_induction_on with
    | refl =>
      obtain ⟨answers, hnone⟩ := exists_resolveNext_eq_none_iff.2 hopen
      rw [← resolveAt_id h.sectionIds ht] at hnone
      exact ⟨[answers], by simp [follow, hnone]⟩
    | head step _ ih =>
      obtain ⟨answers, hb⟩ : Led sections _ _ := led_eq_liveLeads h ▸ step
      obtain ⟨rest, hnone⟩ := ih (h.exists_section hid (.single step))
      exact ⟨answers :: rest, by simp [follow, hb, hnone]⟩

/-- Of a flow that passes the check everyone can finish, wherever they have been led, exactly
when live rules lead on to a section without a fallback from wherever live rules lead. -/
theorem all_finish_iff (h : (check policy sections).isValid = true) :
    (∀ id, LedTo sections id → ∃ answers, follow sections answers id = none) ↔
      ∀ first ∈ sections.head?, ∀ id, ReflTransGen (LiveLeads sections) first.id id →
        ∃ t ∈ sections, Open t ∧ ReflTransGen (LiveLeads sections) id t.id := by
  have h := publishable_of_isValid h
  have hid : ∀ first ∈ sections.head?, ∀ id, ReflTransGen (LiveLeads sections) first.id id →
      ∃ s ∈ sections, s.id = id := fun first hf id path =>
    h.exists_section ⟨first, List.mem_of_head? hf, rfl⟩ path
  simp only [LedTo, led_eq_liveLeads h]
  constructor
  · intro finish first hf id path
    exact (exists_follow_eq_none_iff h (hid first hf id path)).1 (finish id ⟨first, hf, path⟩)
  · rintro exits id ⟨first, hf, path⟩
    exact (exists_follow_eq_none_iff h (hid first hf id path)).2 (exits first hf id path)

end

def asking (again leave : String) : List Section :=
  [{ id := "start", title := "", description := none
     blocks := [.question ⟨"more", "", none, false⟩ .select (some ["yes", "no"])]
     rules :=
       [⟨"again", .equals, some "more", some again, "start"⟩,
        ⟨"leave", .equals, some "more", some leave, "done"⟩,
        ⟨"otherwise", .any, none, none, "start"⟩] },
   { id := "done", title := "", description := none, blocks := [], rules := [] }]

theorem all_finish_asking :
    (check {} (asking "yes" "no")).isValid = true ∧
      ∀ id, LedTo (asking "yes" "no") id →
        ∃ answers, follow (asking "yes" "no") answers id = none := by
  have valid : (check {} (asking "yes" "no")).isValid = true := by cbv
  refine ⟨valid, (all_finish_iff valid).2 fun first hf id path => ?_⟩
  have hid : first.id = "start" := by
    simp only [asking, List.head?_cons, Option.mem_some_iff] at hf
    simp [← hf]
  rw [hid] at path
  have leave : LiveLeads (asking "yes" "no") "start" "done" :=
    ⟨_, List.mem_cons_self .., rfl, _, ⟨[_], [_], rfl, by simp [Shadows]⟩, rfl⟩
  have stay : id = "start" ∨ id = "done" := by
    induction path with
    | refl => exact .inl rfl
    | tail _ step _ =>
      obtain ⟨s, hs, -, r, hr, rfl⟩ := liveLeads_leads step
      simp only [asking, List.mem_cons, List.not_mem_nil, or_false] at hs
      rcases hs with rfl | rfl <;> simp at hr
      rcases hr with rfl | rfl | rfl <;> simp
  have hopen : Open ⟨"done", "", none, [], []⟩ := by simp [Open]
  refine ⟨_, by simp [asking], hopen, ?_⟩
  rcases stay with rfl | rfl
  · exact .single leave
  · exact .refl

/-- The second of two rules with one condition is a way out for the check and for nobody else. -/
theorem shadowed_exit_traps :
    (check {} (asking "yes" "yes")).isValid = true ∧ LedTo (asking "yes" "yes") "start" ∧
      ∀ answers, follow (asking "yes" "yes") answers "start" ≠ none := by
  have stay : ∀ answers, resolveAt (asking "yes" "yes") answers "start" = some "start" := by
    intro answers
    have hsection : sectionAt? (asking "yes" "yes") "start" = (asking "yes" "yes").head? := by
      decide
    rw [resolveAt, hsection]
    by_cases holds : answerMatches (Entries.get? "more" answers) "yes" = true <;>
      simp [asking, resolveNext, matchConditional, matchFallback, ruleHolds, sourceOf?,
        Rule.isFallback, holds]
  refine ⟨by cbv, ⟨_, rfl, .refl⟩, fun answers => ?_⟩
  induction answers with
  | nil => simp [follow]
  | cons a rest ih => simpa [follow, stay a] using ih

section

variable {policy : Policy} {sections : List Section}

theorem finish_of_distinct_conditions (h : (check policy sections).isValid = true)
    (distinct : ∀ s ∈ sections, s.rules.Pairwise fun q r => ¬ Shadows q r) {id : String}
    (led : LedTo sections id) : ∃ answers, follow sections answers id = none := by
  have h := publishable_of_isValid h
  have live : LiveLeads sections = Leads sections := by
    funext a b
    refine propext ⟨liveLeads_leads, ?_⟩
    rintro ⟨s, hs, hid, r, hr, htarget⟩
    obtain ⟨before, after, hrules⟩ := List.append_of_mem hr
    refine ⟨s, hs, hid, r, ⟨before, after, hrules, fun q hq => ?_⟩, htarget⟩
    have hpair := distinct s hs
    rw [hrules, List.pairwise_append] at hpair
    exact hpair.2.2 q hq r (by simp)
  obtain ⟨first, hf, path⟩ := led
  rw [led_eq_liveLeads h] at path
  have hid := h.exists_section ⟨first, List.mem_of_head? hf, rfl⟩ path
  rw [exists_follow_eq_none_iff h hid, live]
  exact h.exits id ⟨first, hf, live ▸ path⟩

end

end IntakeForms.Flow
