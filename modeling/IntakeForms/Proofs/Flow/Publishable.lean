import IntakeForms.Flow.Check
import IntakeForms.Proofs.Flow.Loops
import Mathlib.Data.List.Nodup

/-! When a flow can be published.  `Publishable` says it of the sections and rules
alone, without a search: identifiers are distinct, rules make sense where they stand,
bookings have an address, and every section that rules lead to has a way on to a
section without a fallback.  `check_isValid_iff` shows that the check decides it. -/

namespace IntakeForms.Flow

open Relation

def Leads (sections : List Section) (a b : String) : Prop :=
  ∃ s ∈ sections, s.id = a ∧ ∃ r ∈ s.rules, r.target = b

/-- Rules lead there from the first section. -/
def Reached (sections : List Section) (id : String) : Prop :=
  ∃ first ∈ sections.head?, ReflTransGen (Leads sections) first.id id

/-- The section has no fallback, so that answers can complete the form there. -/
def Open (s : Section) : Prop := ∀ r ∈ s.rules, r.operator ≠ .any

/-- What can be picked: an option of a question with one or many choices, or the
identifier of an image. -/
inductive Offers : Block → String → Prop
  | select {a options v} : v ∈ options → Offers (.question a .select (some options)) v
  | multi {a options v} : v ∈ options → Offers (.question a .multi (some options)) v
  | image {a many options o} : o ∈ options → Offers (.imageChoice a many options) o.id

def Answerable (s : Section) (r : Rule) : Prop :=
  ∃ source value, r.source = some source ∧ source ≠ "" ∧ r.value = some value ∧
    ∃ b ∈ s.blocks, b.id = source ∧ Offers b value

structure Publishable (policy : Policy) (sections : List Section) : Prop where
  nonempty : sections ≠ []
  sectionIds : (sections.map Section.id).Nodup
  blockIds : ∀ s ∈ sections, (s.blocks.map Block.id).Nodup
  targets : ∀ s ∈ sections, ∀ r ∈ s.rules, ∃ t ∈ sections, t.id = r.target
  answerable : ∀ s ∈ sections, ∀ r ∈ s.rules, r.operator = .equals → Answerable s r
  fallbacks : ∀ s ∈ sections, (s.rules.filter (·.operator = .any)).length ≤ 1
  bookings : ∀ s ∈ sections, ∀ ask booking, Block.bookCall ask booking ∈ s.blocks →
    booking.url ≠ "" ∧ Url.isHttp booking.url = true
  exits : ∀ id, Reached sections id →
    ∃ t ∈ sections, Open t ∧ ReflTransGen (Leads sections) id t.id
  unreached : policy.unreachableIsError = true → ∀ s ∈ sections, Reached sections s.id

theorem countBlock_fields (s : Section) (c : Census) (b : Block) :
    (countBlock s c b).sections = c.sections ∧
    (countBlock s c b).blocks = (if b.id ∈ c.blocks then c.blocks else c.blocks ++ [b.id]) ∧
    (countBlock s c b).errors =
      if b.id ∈ c.blocks then c.errors ++ [duplicateBlock s b] else c.errors := by
  unfold countBlock
  dsimp only
  split_ifs
  · exact ⟨rfl, rfl, rfl⟩
  · split
    · exact ⟨rfl, rfl, rfl⟩
    · split_ifs <;> exact ⟨rfl, rfl, rfl⟩

theorem foldl_countBlock_sections (s : Section) (bs : List Block) (c : Census) :
    (bs.foldl (countBlock s) c).sections = c.sections := by
  induction bs generalizing c with
  | nil => rfl
  | cons b rest ih => rw [List.foldl_cons, ih, (countBlock_fields s c b).1]

theorem foldl_countBlock_errors (s : Section) (bs : List Block) (c : Census) :
    (bs.foldl (countBlock s) c).errors = [] ↔
      c.errors = [] ∧ (bs.map Block.id).Nodup ∧ ∀ b ∈ bs, b.id ∉ c.blocks := by
  induction bs generalizing c with
  | nil => simp
  | cons b rest ih =>
    obtain ⟨-, blocks, errors⟩ := countBlock_fields s c b
    rw [List.foldl_cons, ih, errors, blocks, List.forall_mem_cons, List.map_cons, List.nodup_cons]
    by_cases hb : b.id ∈ c.blocks
    · simp [hb]
    · simp only [hb, if_false, List.mem_append, List.mem_singleton, not_or, List.mem_map,
        not_exists, not_and, not_false_eq_true, true_and]
      constructor
      · rintro ⟨he, hn, hrest⟩
        exact ⟨he, ⟨fun x hx heq => (hrest x hx).2 heq, hn⟩, fun x hx => (hrest x hx).1⟩
      · rintro ⟨he, ⟨hnew, hn⟩, hrest⟩
        exact ⟨he, hn, fun x hx => ⟨hrest x hx, fun heq => hnew x hx heq⟩⟩

theorem countSection_sections (c : Census) (s : Section) :
    (countSection c s).sections = c.sections ++ [s.id] := by
  unfold countSection
  rw [foldl_countBlock_sections]

theorem countSection_errors (c : Census) (s : Section) :
    (countSection c s).errors = [] ↔
      c.errors = [] ∧ s.id ∉ c.sections ∧ (s.blocks.map Block.id).Nodup := by
  unfold countSection
  rw [foldl_countBlock_errors]
  by_cases h : s.id ∈ c.sections <;> simp [h]

theorem foldl_countSection_errors (sections : List Section) (c : Census) :
    (sections.foldl countSection c).errors = [] ↔
      c.errors = [] ∧ (sections.map Section.id).Nodup ∧ (∀ s ∈ sections, s.id ∉ c.sections) ∧
        ∀ s ∈ sections, (s.blocks.map Block.id).Nodup := by
  induction sections generalizing c with
  | nil => simp
  | cons s rest ih =>
    rw [List.foldl_cons, ih, countSection_errors, countSection_sections]
    simp only [List.forall_mem_cons, List.map_cons, List.nodup_cons, List.mem_map, List.mem_append,
      List.mem_singleton, not_or, not_exists, not_and]
    constructor
    · rintro ⟨⟨he, hs, hblocks⟩, hn, hnew, hrest⟩
      exact ⟨he, ⟨fun x hx => (hnew x hx).2, hn⟩, ⟨hs, fun x hx => (hnew x hx).1⟩, hblocks, hrest⟩
    · rintro ⟨he, ⟨hfresh, hn⟩, ⟨hs, hnew⟩, hblocks, hrest⟩
      exact ⟨⟨he, hs, hblocks⟩, hn, fun x hx => ⟨hnew x hx, hfresh x hx⟩, hrest⟩

theorem census_errors_eq_nil_iff (sections : List Section) :
    (census sections).errors = [] ↔
      (sections.map Section.id).Nodup ∧ ∀ s ∈ sections, (s.blocks.map Block.id).Nodup := by
  unfold census
  rw [foldl_countSection_errors]
  simp

theorem choices?_offers {b : Block} {v : String} :
    Offers b v ↔ ∃ values, b.choices? = some values ∧ v ∈ values := by
  constructor
  · intro h
    cases h with
    | select hv => exact ⟨_, rfl, hv⟩
    | multi hv => exact ⟨_, rfl, hv⟩
    | image ho => exact ⟨_, rfl, List.mem_map_of_mem ho⟩
  · rintro ⟨values, hvalues, hv⟩
    unfold Block.choices? at hvalues
    split at hvalues
    · next a options =>
      obtain rfl : options.getD [] = values := by simpa using hvalues
      cases options with
      | none => simp at hv
      | some options => exact .select hv
    · next a options =>
      obtain rfl : options.getD [] = values := by simpa using hvalues
      cases options with
      | none => simp at hv
      | some options => exact .multi hv
    · next a many options =>
      obtain rfl : options.map ImageOption.id = values := by simpa using hvalues
      obtain ⟨o, ho, rfl⟩ := List.mem_map.1 hv
      exact .image ho
    · simp at hvalues

theorem asks_of_choices? {b : Block} {values : List String} (h : b.choices? = some values) :
    b.asks = true := by
  cases b <;> first | rfl | simp [Block.choices?] at h

theorem find?_key_eq_some_iff {α : Type} {key : α → String} {l : List α} (hn : (l.map key).Nodup)
    {k : String} {a : α} : l.find? (key · = k) = some a ↔ a ∈ l ∧ key a = k := by
  constructor
  · intro h
    exact ⟨List.mem_of_find?_eq_some h, by simpa using List.find?_some h⟩
  · rintro ⟨hmem, rfl⟩
    cases hfind : l.find? (key · = key a) with
    | none => simpa using List.find?_eq_none.1 hfind a hmem
    | some b =>
      have hkey : key b = key a := by simpa using List.find?_some hfind
      rw [List.inj_on_of_nodup_map hn (List.mem_of_find?_eq_some hfind) hmem hkey]

theorem block?_eq_some_iff {s : Section} (hn : (s.blocks.map Block.id).Nodup) {id : String}
    {b : Block} : s.block? id = some b ↔ b ∈ s.blocks ∧ b.id = id :=
  find?_key_eq_some_iff hn

theorem sourceOf?_eq_some_iff {r : Rule} (h : r.operator = .equals) {source : String} :
    sourceOf? r = some source ↔ r.source = some source ∧ source ≠ "" := by
  unfold sourceOf?
  cases hs : r.source with
  | none => simp [h]
  | some b =>
    by_cases hb : b = ""
    · subst hb
      refine ⟨fun heq => by simp [h] at heq, fun heq => absurd ?_ heq.2⟩
      simpa using heq.1.symm
    · simp only [h, String.isEmpty_iff, hb, if_false, Option.some.injEq]
      exact ⟨fun heq => ⟨heq, heq ▸ hb⟩, fun h => h.1⟩

def OffersTo (s : Section) (r : Rule) : Prop :=
  ∃ source value b, r.source = some source ∧ source ≠ "" ∧ r.value = some value ∧
    s.block? source = some b ∧ Offers b value

theorem offersTo_iff {s : Section} (hn : (s.blocks.map Block.id).Nodup) {r : Rule} :
    OffersTo s r ↔ Answerable s r := by
  constructor
  · rintro ⟨source, value, b, hs, hne, hvalue, hb, hoffers⟩
    obtain ⟨hmem, hid⟩ := (block?_eq_some_iff hn).1 hb
    exact ⟨source, value, hs, hne, hvalue, b, hmem, hid, hoffers⟩
  · rintro ⟨source, value, hs, hne, hvalue, b, hmem, hid, hoffers⟩
    exact ⟨source, value, b, hs, hne, hvalue, (block?_eq_some_iff hn).2 ⟨hmem, hid⟩, hoffers⟩

theorem conditionIssue?_eq_none_iff {s : Section} {r : Rule} (h : r.operator = .equals) :
    conditionIssue? s r = none ↔ OffersTo s r := by
  constructor
  · intro hnone
    unfold conditionIssue? at hnone
    split at hnone
    · next source value hsource hvalue =>
      obtain ⟨hs, hne⟩ := (sourceOf?_eq_some_iff h).1 hsource
      split at hnone
      · simp at hnone
      · next b hb =>
        split_ifs at hnone with hasks
        split at hnone
        · simp at hnone
        · next values hvalues =>
          split_ifs at hnone with hv
          exact ⟨source, value, b, hs, hne, hvalue, hb, choices?_offers.2 ⟨values, hvalues, hv⟩⟩
    · simp at hnone
  · rintro ⟨source, value, b, hs, hne, hvalue, hb, hoffers⟩
    obtain ⟨values, hvalues, hv⟩ := choices?_offers.1 hoffers
    have hsource : sourceOf? r = some source := (sourceOf?_eq_some_iff h).2 ⟨hs, hne⟩
    have hasks : b.asks = true := asks_of_choices? hvalues
    simp [conditionIssue?, hsource, hvalue, hb, hasks, hvalues, hv]

theorem ruleIntegrity_eq_nil_iff_offersTo {s : Section} {known : List String} :
    ruleIntegrity s known = [] ↔
      (∀ r ∈ s.rules, r.target ∈ known) ∧ ∀ r ∈ s.rules, r.operator = .equals → OffersTo s r := by
  unfold ruleIntegrity ruleIssues
  rw [List.flatMap_eq_nil_iff, ← forall₂_and]
  refine forall₂_congr fun r _ => ?_
  rw [List.append_eq_nil_iff]
  refine and_congr (by simp) ?_
  by_cases hop : r.operator = .equals
  · simp [hop, Option.toList_eq_nil_iff, conditionIssue?_eq_none_iff hop]
  · simp [hop]

theorem ruleIntegrity_eq_nil_iff {s : Section} (hn : (s.blocks.map Block.id).Nodup)
    {known : List String} :
    ruleIntegrity s known = [] ↔
      (∀ r ∈ s.rules, r.target ∈ known) ∧
        ∀ r ∈ s.rules, r.operator = .equals → Answerable s r := by
  simp only [ruleIntegrity_eq_nil_iff_offersTo, offersTo_iff hn]

theorem fallbackIssues_eq_nil_iff {s : Section} :
    fallbackIssues s = [] ↔ (s.rules.filter (·.operator = .any)).length ≤ 1 := by
  have hcount : fallbackCount s = (s.rules.filter (·.operator = .any)).length := by
    rw [fallbackCount, List.countP_eq_length_filter]
    rfl
  rw [← hcount]
  simp [fallbackIssues]

theorem blockErrors_eq_nil_iff {s : Section} {b : Block} :
    blockErrors s b = [] ↔
      ∀ ask booking, b = .bookCall ask booking →
        booking.url ≠ "" ∧ Url.isHttp booking.url = true := by
  cases b with
  | bookCall ask booking =>
    simp only [blockErrors, Block.bookCall.injEq, String.isEmpty_iff]
    constructor
    · rintro h _ _ ⟨rfl, rfl⟩
      split_ifs at h with hempty hhttp
      exact ⟨hempty, hhttp⟩
    · intro h
      obtain ⟨hne, hhttp⟩ := h ask booking ⟨rfl, rfl⟩
      simp [hne, hhttp]
  | _ => simp [blockErrors]

theorem sectionErrors_eq_nil_iff {s : Section} (hn : (s.blocks.map Block.id).Nodup)
    {known : List String} :
    sectionErrors known s = [] ↔
      (∀ r ∈ s.rules, r.target ∈ known) ∧
      (∀ r ∈ s.rules, r.operator = .equals → Answerable s r) ∧
      (s.rules.filter (·.operator = .any)).length ≤ 1 ∧
      ∀ ask booking, Block.bookCall ask booking ∈ s.blocks →
        booking.url ≠ "" ∧ Url.isHttp booking.url = true := by
  unfold sectionErrors
  rw [List.append_eq_nil_iff, List.append_eq_nil_iff, ruleIntegrity_eq_nil_iff hn,
    fallbackIssues_eq_nil_iff, List.flatMap_eq_nil_iff, and_assoc, and_assoc]
  refine and_congr_right fun _ => and_congr_right fun _ => and_congr_right fun _ => ?_
  constructor
  · intro h ask booking hmem
    exact blockErrors_eq_nil_iff.1 (h _ hmem) ask booking rfl
  · intro h b hb
    exact blockErrors_eq_nil_iff.2 fun ask booking heq => h ask booking (heq ▸ hb)

section

variable {sections : List Section}

theorem nodes_graphOf : (graphOf sections).nodes = distinct (sections.map (·.id)) := by
  simp [Graph.nodes, graphOf, Entries.keys, Function.comp_def]

theorem targets_graphOf (sections : List Section) (a : String) :
    (graphOf sections).targets a = targetsOf sections a := by
  unfold Graph.targets
  by_cases ha : a ∈ sections.map (·.id)
  · have hmem : (a, targetsOf sections a) ∈ graphOf sections :=
      List.mem_map.2 ⟨a, mem_distinct.2 ha, rfl⟩
    have hnodup : (Entries.keys (graphOf sections)).Nodup := by
      rw [← Graph.nodes, nodes_graphOf]
      exact nodup_distinct _
    simp [Entries.get?_of_mem hnodup hmem]
  · have hnone : Entries.get? a (graphOf sections) = none := by
      cases hget : Entries.get? a (graphOf sections) with
      | none => rfl
      | some ts =>
        obtain ⟨n, hn, heq⟩ := List.mem_map.1 (Entries.mem_of_get? hget)
        obtain rfl : n = a := congrArg Prod.fst heq
        exact absurd (mem_distinct.1 hn) ha
    have hfilter : sections.filter (·.id = a) = [] := by
      rw [List.filter_eq_nil_iff]
      intro s hs heq
      exact ha (List.mem_map.2 ⟨s, hs, by simpa using heq⟩)
    simp [hnone, targetsOf, hfilter, distinct]

theorem edge_graphOf_iff {a b : String} :
    (graphOf sections).Edge a b ↔ Leads sections a b ∧ b ∈ sections.map (·.id) := by
  unfold Graph.Edge Leads
  rw [targets_graphOf, targetsOf, mem_distinct]
  simp only [List.mem_filter, List.mem_flatMap, List.mem_map, decide_eq_true_eq]
  refine and_congr_left fun _ => ?_
  constructor
  · rintro ⟨s, ⟨hs, hid⟩, r, hr, htarget⟩
    exact ⟨s, hs, hid, r, hr, htarget⟩
  · rintro ⟨s, hs, hid, r, hr, htarget⟩
    exact ⟨s, ⟨hs, hid⟩, r, hr, htarget⟩

theorem proper_graphOf (sections : List Section) : (graphOf sections).Proper where
  nodup := nodes_graphOf ▸ nodup_distinct _
  closed edge := by
    rw [nodes_graphOf, mem_distinct]
    exact (edge_graphOf_iff.1 edge).2

theorem path_graphOf (targets : ∀ s ∈ sections, ∀ r ∈ s.rules, r.target ∈ sections.map (·.id)) :
    (graphOf sections).Path = ReflTransGen (Leads sections) := by
  have edge : (graphOf sections).Edge = Leads sections := by
    funext a b
    refine propext (edge_graphOf_iff.trans (and_iff_left_of_imp ?_))
    rintro ⟨s, hs, -, r, hr, rfl⟩
    exact targets s hs r hr
  rw [Graph.Path, edge]

theorem mem_openEnded_iff {n : String} :
    n ∈ openEnded sections ↔ ∃ s ∈ sections, Open s ∧ s.id = n := by
  simp only [openEnded, List.mem_map, List.mem_filter, matchFallback, Option.isNone_iff_eq_none,
    List.find?_eq_none, Rule.isFallback, decide_eq_true_eq, and_assoc]
  rfl

theorem mem_finals_iff (targets : ∀ s ∈ sections, ∀ r ∈ s.rules, r.target ∈ sections.map (·.id))
    {n : String} :
    n ∈ (graphOf sections).finals (openEnded sections) ↔ ∃ s ∈ sections, Open s ∧ s.id = n := by
  simp only [Graph.finals, List.mem_filter, nodes_graphOf, mem_distinct, decide_eq_true_eq,
    List.isEmpty_iff, mem_openEnded_iff]
  constructor
  · rintro ⟨hn, hnil | h⟩
    · obtain ⟨s, hs, rfl⟩ := List.mem_map.1 hn
      refine ⟨s, hs, fun r hr _ => ?_, rfl⟩
      have edge : r.target ∈ (graphOf sections).targets s.id :=
        edge_graphOf_iff.2 ⟨⟨s, hs, rfl, r, hr, rfl⟩, targets s hs r hr⟩
      simp [hnil] at edge
    · exact h
  · rintro ⟨s, hs, hopen, rfl⟩
    exact ⟨List.mem_map_of_mem hs, .inr ⟨s, hs, hopen, rfl⟩⟩

theorem unreachableSections_eq_nil_iff {reached : List String} :
    unreachableSections sections reached = [] ↔ ∀ s ∈ sections, s.id ∈ reached := by
  induction sections with
  | nil => simp [unreachableSections]
  | cons s rest ih =>
    rw [List.forall_mem_cons, unreachableSections]
    by_cases hs : s.id ∈ reached <;> simp [hs, ih]

theorem checkFrom_isValid_iff (policy : Policy) (entry : Section) (sections : List Section) :
    (checkFrom policy entry sections).isValid = true ↔
      (census sections).errors = [] ∧
      (∀ s ∈ sections, sectionErrors (sections.map (·.id)) s = []) ∧
      (policy.unreachableIsError = true →
        unreachableSections sections ((graphOf sections).reachable entry.id) = []) ∧
      ∀ c ∈ (graphOf sections).cycles entry.id,
        ∃ x ∈ c, x ∈ (graphOf sections).canFinish (openEnded sections) := by
  unfold checkFrom
  simp only [List.isEmpty_iff, List.append_eq_nil_iff, List.flatMap_eq_nil_iff,
    List.map_eq_nil_iff, List.filter_eq_nil_iff, escapes, Bool.not_eq_true', List.any_eq_false,
    decide_eq_true_eq, not_forall, not_not, exists_prop, and_assoc]
  refine and_congr_right fun _ => and_congr_right fun _ => and_congr_left fun _ => ?_
  by_cases hp : policy.unreachableIsError = true <;> simp [hp]

section

variable {first : Section} {rest : List Section}

theorem reached_cons_iff {id : String} :
    Reached (first :: rest) id ↔ ReflTransGen (Leads (first :: rest)) first.id id := by
  simp [Reached]

theorem checkFrom_cons_isValid_iff (policy : Policy) (first : Section) (rest : List Section) :
    (checkFrom policy first (first :: rest)).isValid = true ↔
      (census (first :: rest)).errors = [] ∧
      (∀ s ∈ first :: rest, sectionErrors ((first :: rest).map (·.id)) s = []) ∧
      (policy.unreachableIsError = true →
        ∀ s ∈ first :: rest, (graphOf (first :: rest)).Path first.id s.id) ∧
      ∀ id, (graphOf (first :: rest)).Path first.id id →
        ∃ f ∈ (graphOf (first :: rest)).finals (openEnded (first :: rest)),
          (graphOf (first :: rest)).Path id f := by
  have hfirst : first.id ∈ (graphOf (first :: rest)).nodes := by
    simp [nodes_graphOf, mem_distinct]
  have proper := proper_graphOf (first :: rest)
  rw [checkFrom_isValid_iff, unreachableSections_eq_nil_iff, Graph.cycles_escape_iff proper hfirst]
  simp only [Graph.mem_canFinish_iff proper, Graph.mem_reachable_iff]

theorem publishable_of_isValid {policy : Policy} {sections : List Section}
    (h : (check policy sections).isValid = true) : Publishable policy sections := by
  cases sections with
  | nil => simp [check, emptyFlow] at h
  | cons first rest =>
    obtain ⟨ids, sound, unreached, exits⟩ := (checkFrom_cons_isValid_iff policy first rest).1 h
    obtain ⟨sectionIds, blockIds⟩ := (census_errors_eq_nil_iff _).1 ids
    have sound := fun s hs => (sectionErrors_eq_nil_iff (blockIds s hs)).1 (sound s hs)
    have targets := fun s hs => (sound s hs).1
    rw [path_graphOf targets] at unreached exits
    exact
      { nonempty := List.cons_ne_nil first rest
        sectionIds := sectionIds
        blockIds := blockIds
        targets := fun s hs r hr => List.mem_map.1 (targets s hs r hr)
        answerable := fun s hs => (sound s hs).2.1
        fallbacks := fun s hs => (sound s hs).2.2.1
        bookings := fun s hs => (sound s hs).2.2.2
        exits := by
          intro id hid
          obtain ⟨f, hf, path⟩ := exits id (reached_cons_iff.1 hid)
          obtain ⟨t, ht, hopen, rfl⟩ := (mem_finals_iff targets).1 hf
          exact ⟨t, ht, hopen, path⟩
        unreached := fun hp s hs => reached_cons_iff.2 (unreached hp s hs) }

theorem isValid_of_publishable {policy : Policy} {sections : List Section}
    (h : Publishable policy sections) : (check policy sections).isValid = true := by
  cases sections with
  | nil => exact absurd rfl h.nonempty
  | cons first rest =>
    have targets : ∀ s ∈ first :: rest, ∀ r ∈ s.rules, r.target ∈ (first :: rest).map (·.id) :=
      fun s hs r hr => List.mem_map.2 (h.targets s hs r hr)
    refine (checkFrom_cons_isValid_iff policy first rest).2 ⟨?ids, ?sound, ?unreached, ?exits⟩
    case ids => exact (census_errors_eq_nil_iff _).2 ⟨h.sectionIds, h.blockIds⟩
    case sound =>
      intro s hs
      exact (sectionErrors_eq_nil_iff (h.blockIds s hs)).2
        ⟨targets s hs, h.answerable s hs, h.fallbacks s hs, h.bookings s hs⟩
    case unreached =>
      rw [path_graphOf targets]
      exact fun hp s hs => reached_cons_iff.1 (h.unreached hp s hs)
    case exits =>
      rw [path_graphOf targets]
      intro id hid
      obtain ⟨t, ht, hopen, path⟩ := h.exits id (reached_cons_iff.2 hid)
      exact ⟨t.id, (mem_finals_iff targets).2 ⟨t, ht, hopen, rfl⟩, path⟩

end

/-- The check accepts the flows that can be published and no others. -/
theorem check_isValid_iff (policy : Policy) (sections : List Section) :
    (check policy sections).isValid = true ↔ Publishable policy sections :=
  ⟨publishable_of_isValid, isValid_of_publishable⟩

end

end IntakeForms.Flow
