import IntakeForms.Proofs.Answer.Reading

/-! What it means that an answer is required.  A block that requires one refuses exactly what it
would take without, where that does not answer it: what is blank, a sorting in which nothing is
sorted, and a call that is declined. -/

namespace IntakeForms

def Value.sorts (v : Value) : Prop :=
  ∃ entries bucket ids i, v = .map entries ∧ bucket ∈ Answer.Schema.bucketNames ∧
    (bucket, .list ids) ∈ entries ∧ .text i ∈ ids

namespace Block

/-- The block with its demand for an answer switched on, or off and with it the other demand that a
call may make. -/
def requiring (required : Bool) : Block → Block
  | .question a input options => .question { a with required := required } input options
  | .imageChoice a multi options => .imageChoice { a with required := required } multi options
  | .links a maxItems => .links { a with required := required } maxItems
  | .moodboard a items => .moodboard { a with required := required } items
  | .sorting a items => .sorting { a with required := required } items
  | .bookCall a booking => .bookCall { a with required := required }
      { booking with requiredToContinue := booking.requiredToContinue && required }
  | b => b

/-- `v` says something in answer to the block. -/
structure AnsweredBy (b : Block) (v : Value) : Prop where
  given : v ≠ .null ∧ v ≠ .text "" ∧ v ≠ .list [] ∧ v ≠ .map []
  sorted : b.kind = "this_not_this" → v.sorts
  booked : b.kind = "book_call" → Shape.flag v = .ok true

end Block

namespace Answer

open Schema

theorem blank_iff {v : Value} :
    v.blank = true ↔ v = .null ∨ v = .text "" ∨ v = .list [] ∨ v = .map [] := by
  cases v <;> simp [Value.blank]

theorem messages_required_iff {s : Schema} {v : Value} :
    { s with required := true }.messages v = [] ↔
      { s with required := false }.messages v = [] ∧ v.blank = false ∧
        answers s.expected v = true := by
  rw [messages_eq_nil_iff, messages_eq_nil_iff]
  have htooMany : { s with required := true }.tooMany v = { s with required := false }.tooMany v :=
    rfl
  cases v.blank with
  | true => simp
  | false => simp [htooMany, and_comm, and_left_comm]

theorem validate_required_fst (s : Schema) (v : Value) :
    ({ s with required := true }.validate v).1 = ({ s with required := false }.validate v).1 := by
  rw [validate_fst, validate_fst]

theorem validate_blank {v : Value} (h : v.blank = true) (s : Schema) :
    s.validate v = (v, if s.required then [s.requiredMessage] else []) := by
  simp [validate, messages, h]

theorem answers_buckets_iff {v : Value} (hfits : fits .buckets v = true) :
    answers .buckets v = true ↔ v.sorts := by
  cases v with
  | map entries =>
    simp only [fits, isBuckets, List.all_eq_true, Bool.and_eq_true, List.contains_iff_mem] at hfits
    simp only [answers, List.any_eq_true]
    constructor
    · rintro ⟨⟨bucket, items⟩, hmem, hitems⟩
      obtain ⟨hbucket, htexts⟩ := hfits _ hmem
      cases items with
      | list ids =>
        cases ids with
        | nil => cases hitems
        | cons i rest =>
          have htext : isText i = true := List.all_eq_true.1 htexts i List.mem_cons_self
          cases i with
          | text i =>
            exact ⟨entries, bucket, _, i, rfl, hbucket, hmem, List.mem_cons_self⟩
          | _ => cases htext
      | _ => cases hitems
    · rintro ⟨_, bucket, ids, i, ⟨⟩, -, hmem, hi⟩
      exact ⟨(bucket, .list ids), hmem, by simpa [holdsText] using List.ne_nil_of_mem hi⟩
  | _ => cases hfits

theorem answers_flag_iff (v : Value) :
    answers .flag v = true ↔ Shape.flag v = .ok true := by
  have hanswers : answers .flag v = ((Shape.flag v).toOption == some true) := by cases v <;> rfl
  rw [hanswers]
  cases Shape.flag v <;> simp [Parsed.toOption]

theorem answers_of_ne {e : Expected} (hbuckets : e ≠ .buckets) (hflag : e ≠ .flag) (v : Value) :
    answers e v = !v.blank := by
  cases e <;> simp_all [answers]

end Answer

namespace Block

open Answer.Schema

theorem schema?_requiring {b : Block} {s : Answer.Schema} (hasks : b.asks = true)
    (h : b.schema? = some s) (required : Bool) :
    (b.requiring required).schema? = some { s with required := required } := by
  cases b with
  | question a input options =>
    cases h
    cases input <;> rfl
  | imageChoice a multi options => cases multi <;> cases h <;> rfl
  | links | moodboard | sorting =>
    cases h
    rfl
  | bookCall a booking =>
    cases h
    cases required <;> simp [requiring, schema?, labelText, label]
  | _ => cases hasks

theorem expected_iff_kind {b : Block} {s : Answer.Schema} (hasks : b.asks = true)
    (h : b.schema? = some s) :
    (s.expected = .buckets ↔ b.kind = "this_not_this") ∧
      (s.expected = .flag ↔ b.kind = "book_call") := by
  cases b with
  | question a input options =>
    cases h
    cases input <;> simp [ofQuestion, kind]
  | imageChoice a multi options => cases multi <;> cases h <;> simp [kind]
  | links | moodboard | sorting | bookCall =>
    cases h
    simp [kind]
  | _ => cases hasks

theorem answeredBy_iff {b : Block} {s : Answer.Schema} {v : Value} (hasks : b.asks = true)
    (h : b.schema? = some s) (hfits : v.blank = false → fits s.expected v = true) :
    b.AnsweredBy v ↔ v.blank = false ∧ answers s.expected v = true := by
  obtain ⟨hbuckets, hflag⟩ := expected_iff_kind hasks h
  have hgiven : (v ≠ .null ∧ v ≠ .text "" ∧ v ≠ .list [] ∧ v ≠ .map []) ↔ v.blank = false := by
    rw [← Bool.not_eq_true, Answer.blank_iff]
    simp only [not_or]
  constructor
  · rintro ⟨hv, hsorted, hbooked⟩
    have hblank := hgiven.1 hv
    refine ⟨hblank, ?_⟩
    by_cases hs : s.expected = .buckets
    · rw [hs] at hfits ⊢
      exact (Answer.answers_buckets_iff (hfits hblank)).2 (hsorted (hbuckets.1 hs))
    · by_cases hf : s.expected = .flag
      · rw [hf]
        exact (Answer.answers_flag_iff v).2 (hbooked (hflag.1 hf))
      · simp [Answer.answers_of_ne hs hf, hblank]
  · rintro ⟨hblank, hanswers⟩
    refine ⟨hgiven.2 hblank, fun hkind => ?_, fun hkind => ?_⟩
    · rw [hbuckets.2 hkind] at hfits hanswers
      exact (Answer.answers_buckets_iff (hfits hblank)).1 hanswers
    · rw [hflag.2 hkind] at hanswers
      exact (Answer.answers_flag_iff v).1 hanswers

/-- Required means optional and answered, and nothing else: what is kept of an answer is the same,
and a blank one is told exactly that an answer is required. -/
theorem required_iff_answered {b : Block} (hasks : b.asks = true) :
    ∃ s0 s1, (b.requiring false).schema? = some s0 ∧ (b.requiring true).schema? = some s1 ∧
      ∀ v, (s1.messages v = [] ↔ s0.messages v = [] ∧ b.AnsweredBy v) ∧
        (s1.validate v).1 = (s0.validate v).1 ∧
        (v = .null ∨ v = .text "" ∨ v = .list [] ∨ v = .map [] →
          s0.validate v = (v, []) ∧ s1.validate v = (v, [s1.requiredMessage])) := by
  obtain ⟨s, hs⟩ := exists_schema?_of_asks hasks
  refine ⟨_, _, schema?_requiring hasks hs false, schema?_requiring hasks hs true, fun v => ?_⟩
  refine ⟨?_, Answer.validate_required_fst s v, fun hv => ?_⟩
  · rw [Answer.messages_required_iff]
    refine and_congr_right fun hfree => (answeredBy_iff hasks hs fun hblank => ?_).symm
    rw [Answer.messages_eq_nil_iff, if_neg (by simp [hblank])] at hfree
    exact hfree.1
  · have hblank := Answer.blank_iff.2 hv
    simp [Answer.validate_blank hblank]

def looks : Block := .sorting ⟨"looks", "Looks", none, false⟩ []

theorem required_iff_answered_looks :
    looks.asks = true ∧ ∃ s0 s1, (looks.requiring false).schema? = some s0 ∧
      (looks.requiring true).schema? = some s1 ∧
      s0.messages (.object [("yes", .list [])]) = [] ∧
      s1.messages (.object [("yes", .list [])]) ≠ [] ∧
      s1.validate .null = (.null, [s1.requiredMessage]) := by
  obtain ⟨s0, s1, h0, h1, h⟩ := required_iff_answered (b := looks) rfl
  obtain ⟨haccepts, -, -⟩ := h (.object [("yes", .list [])])
  obtain ⟨-, -, hblank⟩ := h .null
  refine ⟨rfl, s0, s1, h0, h1, ?_, ?_, (hblank (.inl rfl)).2⟩
  · cases h0
    decide +kernel
  · rw [Ne, haccepts]
    rintro ⟨-, -, hsorted, -⟩
    obtain ⟨entries, bucket, ids, i, heq, -, hmem, hi⟩ := hsorted rfl
    cases heq
    simp at hmem
    simp [hmem.2] at hi

end Block

end IntakeForms
