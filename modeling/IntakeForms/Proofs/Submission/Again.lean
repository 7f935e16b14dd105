import IntakeForms.Flow.Check
import IntakeForms.Proofs.Submission.Blockwise

/-! A verdict on answers that were accepted before.  Blocks of several sections may read one
answer.  What was accepted is accepted again, and stays as it is, as long as no answer is
read both as a text and as a number. -/

namespace IntakeForms.Submission

open Answer Schema

theorem answerTo_checkBlocks (bs : List Block) (p : Progress) (key : String) :
    answerTo key (bs.foldl checkBlock p).answers =
      if ∃ b ∈ bs, b.isNumeric = true ∧ b.id = key then asNumber (answerTo key p.answers)
      else answerTo key p.answers := by
  rw [answerTo, get?_checkBlocks, answerTo]
  cases Entries.get? key p.answers with
  | none => exact (ite_self _).symm
  | some v => rfl

theorem read_checkBlocks {bs : List Block} {p : Progress} {b : Block} (hb : b ∈ bs) {v : Value}
    (h : Entries.get? b.id (bs.foldl checkBlock p).answers = some v) : b.read v = v := by
  rw [get?_checkBlocks] at h
  obtain ⟨u, -, rfl⟩ := Option.map_eq_some_iff.1 h
  rw [Block.read_eq]
  split
  · next hnumeric => rw [if_pos ⟨b, hb, hnumeric, rfl⟩, asNumber_asNumber]
  · rfl

theorem complaints_congr {answers other : Answers} {b : Block}
    (h : answerTo b.id answers = answerTo b.id other) :
    complaints answers b = complaints other b := by
  rw [complaints, complaints, h]

theorem complaints_eq_nil_iff {answers : Answers} {b : Block} :
    complaints answers b = [] ↔
      ∀ schema, b.schema? = some schema → schema.messages (answerTo b.id answers) = [] := by
  rw [complaints]
  cases h : b.schema? with
  | none => simp
  | some schema => simp [Schema.validate]

theorem errors_subset_checkBlocks (bs : List Block) (p : Progress) :
    p.errors ⊆ (bs.foldl checkBlock p).errors := by
  induction bs generalizing p with
  | nil => exact List.Subset.refl _
  | cons b rest ih =>
    refine List.Subset.trans ?_ (ih (checkBlock p b))
    rw [errors_checkBlock]
    exact List.subset_append_left ..

theorem complaints_of_errors {bs : List Block} {p : Progress}
    (h : (bs.foldl checkBlock p).errors = []) {b : Block} (hb : b ∈ bs) :
    complaints p.answers b = [] ∨ complaints (bs.foldl checkBlock p).answers b = [] := by
  induction bs generalizing p with
  | nil => cases hb
  | cons c rest ih =>
    rcases List.mem_cons.1 hb with rfl | hb
    · have hnil := List.subset_nil.1 (h ▸ errors_subset_checkBlocks rest (checkBlock p b))
      rw [errors_checkBlock] at hnil
      exact .inl (List.append_eq_nil_iff.1 hnil).2
    · rcases ih h hb with hnil | hnil
      · have hstep := answerTo_checkBlocks [c] p b.id
        simp only [List.foldl_cons, List.foldl_nil, List.mem_singleton, exists_eq_left] at hstep
        by_cases hc : c.isNumeric = true ∧ c.id = b.id
        · right
          have hend := answerTo_checkBlocks (c :: rest) p b.id
          rw [if_pos ⟨c, List.mem_cons_self, hc⟩] at hend
          rw [if_pos hc, ← hend] at hstep
          rwa [complaints_congr hstep] at hnil
        · left
          rw [if_neg hc] at hstep
          rwa [complaints_congr hstep] at hnil
      · exact .inr hnil

/-- No answer but a blank one is read both as a text and as a number. -/
def TextsApart (blocks : List Block) (answers : Answers) : Prop :=
  ∀ b ∈ blocks, ∀ c ∈ blocks, b.takesText = true → c.isNumeric = true → b.id = c.id →
    (answerTo b.id answers).blank = true

section

variable {bs : List Block} {p : Progress}

theorem textsApart_of_complaints
    (h : ∀ b ∈ bs, complaints (bs.foldl checkBlock p).answers b = []) :
    TextsApart bs (bs.foldl checkBlock p).answers := by
  intro b hb c hc htext hnumeric hid
  by_contra hblank
  rw [Bool.not_eq_true] at hblank
  obtain ⟨schema, hschema⟩ := Block.exists_schema?_of_isNumeric hnumeric
  obtain ⟨text, htext'⟩ := Block.exists_schema?_of_takesText htext
  have hnumber := complaints_eq_nil_iff.1 (h c hc) schema hschema
  rw [← hid] at hnumber
  obtain ⟨n, hn⟩ := Option.isSome_iff_exists.1 (isSome_number?_of_messages
    ((Block.expected_of_schema? hschema).1.2 hnumeric) hnumber hblank)
  have hself : answerTo b.id (bs.foldl checkBlock p).answers = n := by
    have hend := answerTo_checkBlocks bs p b.id
    rw [if_pos ⟨c, hc, hnumeric, hid.symm⟩] at hend
    rw [hend] at hn ⊢
    rw [← asNumber_of_some hn, asNumber_asNumber]
  have htaken := complaints_eq_nil_iff.1 (h b hb) text htext'
  rw [hself] at htaken
  exact messages_ne_nil_of_number? hn ((Block.expected_of_schema? htext').2.2 htext) htaken

theorem complaints_of_textsApart (h : (bs.foldl checkBlock p).errors = [])
    (hapart : TextsApart bs (bs.foldl checkBlock p).answers) {b : Block} (hb : b ∈ bs) :
    complaints (bs.foldl checkBlock p).answers b = [] := by
  rcases complaints_of_errors h hb with hnil | hnil
  · have hend := answerTo_checkBlocks bs p b.id
    by_cases hc : ∃ c ∈ bs, c.isNumeric = true ∧ c.id = b.id
    · obtain ⟨c, hc, hnumeric, hid⟩ := hc
      rw [if_pos ⟨c, hc, hnumeric, hid⟩] at hend
      cases hn : number? (answerTo b.id p.answers) with
      | none =>
        rw [asNumber_of_none hn] at hend
        rwa [complaints_congr hend]
      | some n =>
        rw [asNumber_of_some hn] at hend
        rw [complaints_eq_nil_iff] at hnil ⊢
        intro schema hschema
        rw [hend]
        refine messages_of_number? hn (hnil schema hschema) fun htext => ?_
        have hblank := hapart b hb c hc ((Block.expected_of_schema? hschema).2.1 htext) hnumeric
          hid.symm
        rw [hend, blank_of_number? (number?_number? hn)] at hblank
        cases hblank
    · rw [if_neg hc] at hend
      rwa [complaints_congr hend]
  · exact hnil

end

theorem validate?_object {bs : List Block} {sections : List Section}
    {visited : Option (List String)} (hbs : blocksInScope sections visited = bs)
    {entries : List (Key × Value)} {answers : Answers}
    (h : (bs.foldl checkBlock ⟨sanitizeAll entries, []⟩).answers = answers) :
    validate? sections visited (.object answers) =
      some ⟨(bs.flatMap (complaints answers)).isEmpty, bs.flatMap (complaints answers), answers⟩ := by
  have hsanitized : Sanitized answers :=
    h ▸ sanitized_checkBlocks bs (sanitized_sanitizeAll entries)
  have hread : ∀ b ∈ bs, ∀ v, Entries.get? b.id answers = some v → b.read v = v :=
    fun b hb v hv => read_checkBlocks hb (h ▸ hv)
  change some (judge sections visited (stored answers)) = _
  rw [hsanitized.stored_eq, judge_eq, hbs]
  dsimp only
  rw [checkBlocks_of_read hread, List.nil_append]

/-- Answers that were accepted are accepted as they are stored, and stay so, exactly if no two
blocks in scope read one of them as a text and as a number; and so is each of them by the
block that it is for. -/
theorem validate_again_iff {sections : List Section} {visited : Option (List String)}
    {entries : List (Key × Value)} {verdict : Verdict}
    (h : validate? sections visited (.map entries) = some verdict) (hvalid : verdict.valid = true) :
    (validate? sections visited (.object verdict.sanitized) = some verdict ↔
      TextsApart (blocksInScope sections visited) verdict.sanitized) ∧
    ((∀ b ∈ blocksInScope sections visited, ∀ schema, b.schema? = some schema →
        schema.messages (answerTo b.id verdict.sanitized) = []) ↔
      TextsApart (blocksInScope sections visited) verdict.sanitized) := by
  have hverdict := Option.some.inj h
  rw [judge_eq] at hverdict
  generalize hbs : blocksInScope sections visited = bs at hverdict ⊢
  subst hverdict
  have herrors : (bs.foldl checkBlock ⟨sanitizeAll entries, []⟩).errors = [] :=
    List.isEmpty_iff.1 hvalid
  have hpass : (∀ b ∈ bs,
      complaints (bs.foldl checkBlock ⟨sanitizeAll entries, []⟩).answers b = []) ↔
        TextsApart bs (bs.foldl checkBlock ⟨sanitizeAll entries, []⟩).answers :=
    ⟨textsApart_of_complaints, fun hapart b hb => complaints_of_textsApart herrors hapart hb⟩
  dsimp only
  constructor
  · rw [← hpass, validate?_object hbs rfl, herrors, Option.some.injEq, Verdict.mk.injEq]
    simp
  · rw [← hpass]
    exact forall₂_congr fun b _ => complaints_eq_nil_iff.symm

theorem validate_again_stay :
    validate? stay (some ["guests"]) (.map given) =
      some ⟨true, [], [("n", .int 5), ("7", .text "seven")]⟩ ∧
    validate? stay (some ["guests"]) (.object [("n", .int 5), ("7", .text "seven")]) =
      some ⟨true, [], [("n", .int 5), ("7", .text "seven")]⟩ := by
  have found : validate? stay (some ["guests"]) (.map given) =
      some ⟨true, [], [("n", .int 5), ("7", .text "seven")]⟩ := by cbv
  have apart : TextsApart (blocksInScope stay (some ["guests"]))
      [("n", .int 5), ("7", .text "seven")] := by
    have blocks : ∀ b ∈ blocksInScope stay (some ["guests"]), b.takesText = false := by decide
    intro b hb c _ htext
    rw [blocks b hb] at htext
    cases htext
  exact ⟨found, (validate_again_iff found rfl).1.2 apart⟩

def shared : List Section :=
  [⟨"room", "Room", none, [.question ⟨"n", "Room", none, false⟩ .short none],
      [⟨"on", .any, none, none, "guests"⟩]⟩,
    ⟨"guests", "Guests", none, [.question ⟨"n", "Guests", none, false⟩ .number none], []⟩]

/-- The text is stored as the number that it writes, and the first block takes no number. -/
theorem shared_key_refused :
    (Flow.check {} shared).isValid = true ∧
    validate? shared none (.object [("n", .text "5")]) = some ⟨true, [], [("n", .int 5)]⟩ ∧
    validate? shared none (.object [("n", .int 5)]) =
      some ⟨false, [⟨"n", "Room", "Room must be text"⟩], [("n", .int 5)]⟩ := by
  refine ⟨?_, ?_, ?_⟩
  · cbv
  · cbv
  · cbv

end IntakeForms.Submission
