import IntakeForms.Proofs.Answer.Bounds
import IntakeForms.Proofs.Answer.Reading
import IntakeForms.Proofs.Answer.Tidy
import IntakeForms.Submission

/-! A submission is judged block by block.  The blocks in scope read one set of answers that
they may change as they go; what is stored under a key has been read by the blocks of that
key alone, and where no two of them ask, every block complains of the answers as they were
before any block read them. -/

namespace IntakeForms.Submission

open Answer

/-- The blocks of the sections in scope, in the order in which they are shown. -/
def blocksInScope (sections : List Section) (visited : Option (List String)) : List Block :=
  (inScope sections visited).flatMap Section.blocks

/-- The answer under a key, or null. -/
def answerTo (key : String) (answers : Answers) : Value := (Entries.get? key answers).getD .null

def complaints (answers : Answers) (b : Block) : List Complaint :=
  match b.schema? with
  | some schema =>
    (schema.validate (answerTo b.id answers)).2.map fun m => ⟨b.id, schema.labelText, m⟩
  | none => []

theorem inScope_congr {sections : List Section} {ids other : List String}
    (h : ∀ id, id ∈ other ↔ id ∈ ids) :
    inScope sections (some other) = inScope sections (some ids) :=
  List.filter_congr fun s _ => by simp [h]

theorem answers_checkBlock (p : Progress) (b : Block) :
    (checkBlock p b).answers =
      ((Entries.get? b.id p.answers).elim p.answers fun v =>
        Entries.put b.id (b.read v) p.answers) := by
  rw [checkBlock]
  cases hschema : b.schema? with
  | none =>
    cases hget : Entries.get? b.id p.answers with
    | none => rfl
    | some v => simp [Block.read, hschema, Entries.put_of_get? hget]
  | some schema =>
    cases hget : Entries.get? b.id p.answers with
    | none => simp
    | some v => simp [Block.read, hschema]

theorem errors_checkBlock (p : Progress) (b : Block) :
    (checkBlock p b).errors = p.errors ++ complaints p.answers b := by
  rw [checkBlock, complaints]
  cases b.schema? with
  | none => exact (List.append_nil _).symm
  | some schema => rfl

theorem keys_checkBlock (p : Progress) (b : Block) :
    Entries.keys (checkBlock p b).answers = Entries.keys p.answers := by
  rw [answers_checkBlock]
  cases hget : Entries.get? b.id p.answers with
  | none => rfl
  | some v =>
    have hmem : b.id ∈ Entries.keys p.answers := List.mem_map_of_mem (Entries.mem_of_get? hget)
    rw [Option.elim_some, Entries.keys_put, if_pos hmem]

theorem get?_checkBlock (p : Progress) (b : Block) (key : String) :
    Entries.get? key (checkBlock p b).answers =
      (Entries.get? key p.answers).map fun v => if b.id = key then b.read v else v := by
  rw [answers_checkBlock]
  by_cases hkey : b.id = key
  · subst hkey
    cases hget : Entries.get? b.id p.answers with
    | none => exact hget
    | some v => simp [Entries.get?_put]
  · cases Entries.get? b.id p.answers with
    | none => simp [hkey]
    | some v => simp [Entries.get?_put, hkey]

theorem checkBlock_of_read {p : Progress} {b : Block}
    (h : ∀ v, Entries.get? b.id p.answers = some v → b.read v = v) :
    checkBlock p b = ⟨p.answers, p.errors ++ complaints p.answers b⟩ := by
  have hanswers : (checkBlock p b).answers = p.answers := by
    rw [answers_checkBlock]
    cases hget : Entries.get? b.id p.answers with
    | none => rfl
    | some v => rw [Option.elim_some, h v hget, Entries.put_of_get? hget]
  rw [← errors_checkBlock, ← hanswers]

theorem judge_eq (sections : List Section) (visited : Option (List String)) (answers : Answers) :
    judge sections visited answers =
      let p := (blocksInScope sections visited).foldl checkBlock ⟨answers, []⟩
      ⟨p.errors.isEmpty, p.errors, p.answers⟩ := by
  rw [judge, blocksInScope, List.foldl_flatMap]
  rfl

theorem keys_checkBlocks (bs : List Block) (p : Progress) :
    Entries.keys (bs.foldl checkBlock p).answers = Entries.keys p.answers := by
  induction bs generalizing p with
  | nil => rfl
  | cons b rest ih => rw [List.foldl_cons, ih, keys_checkBlock]

theorem get?_checkBlocks (bs : List Block) (p : Progress) (key : String) :
    Entries.get? key (bs.foldl checkBlock p).answers =
      (Entries.get? key p.answers).map fun v =>
        if ∃ b ∈ bs, b.isNumeric = true ∧ b.id = key then asNumber v else v := by
  induction bs generalizing p with
  | nil => simp
  | cons b rest ih =>
    rw [List.foldl_cons, ih, get?_checkBlock, Option.map_map]
    refine congrArg (Option.map · _) (funext fun v => ?_)
    rw [Function.comp_apply, Block.read_eq]
    simp only [List.exists_mem_cons_iff]
    by_cases hb : b.isNumeric = true ∧ b.id = key
    · rw [if_pos hb.2, if_pos hb.1, asNumber_asNumber, ite_self, if_pos (.inl hb)]
    · have hv : (if b.id = key then if b.isNumeric = true then asNumber v else v else v) = v := by
        split_ifs with hkey hnumeric
        · exact absurd ⟨hnumeric, hkey⟩ hb
        · rfl
        · rfl
      rw [hv]
      simp only [hb, false_or]

theorem complaints_of_not_asks {b : Block} (h : ¬ b.asks = true) (answers : Answers) :
    complaints answers b = [] := by
  cases b with
  | unknown id kind extras =>
    have hnil : ∀ v, (Schema.permissive id (Block.unknown id kind extras).label).validate v =
        (v, []) := fun v => by
      rw [Schema.validate, messages_permissive]
      simp [Schema.kept, Schema.permissive]
    simp [complaints, Block.schema?, hnil]
  | context | heading | divider | image | video | quote => rfl
  | _ => simp [Block.asks, Block.ask?] at h

/-- A block complains alike of an answer and of what an earlier block makes of it, unless both
ask for the answer. -/
theorem complaints_checkBlock {p : Progress} {b c : Block}
    (h : b.asks = true → c.asks = true → b.id ≠ c.id) :
    complaints (checkBlock p b).answers c = complaints p.answers c := by
  by_cases hc : c.asks = true
  · have hsame : answerTo c.id (checkBlock p b).answers = answerTo c.id p.answers := by
      rw [answerTo, get?_checkBlock, answerTo]
      by_cases hkey : b.id = c.id
      · have hb : ¬ b.isNumeric = true := fun hb => h (Block.asks_of_isNumeric hb) hc hkey
        simp [Block.read_eq, hb]
      · simp [hkey]
    rw [complaints, hsame, complaints]
  · rw [complaints_of_not_asks hc, complaints_of_not_asks hc]

theorem errors_checkBlocks {bs : List Block}
    (h : bs.Pairwise fun b c => b.asks = true → c.asks = true → b.id ≠ c.id) (p : Progress) :
    (bs.foldl checkBlock p).errors = p.errors ++ bs.flatMap (complaints p.answers) := by
  induction bs generalizing p with
  | nil => simp
  | cons b rest ih =>
    rw [List.pairwise_cons] at h
    rw [List.foldl_cons, ih h.2, errors_checkBlock, List.flatMap_cons, List.append_assoc,
      List.flatMap_congr fun c hc => complaints_checkBlock (h.1 c hc)]

theorem checkBlocks_of_read {bs : List Block} {p : Progress}
    (h : ∀ b ∈ bs, ∀ v, Entries.get? b.id p.answers = some v → b.read v = v) :
    bs.foldl checkBlock p = ⟨p.answers, p.errors ++ bs.flatMap (complaints p.answers)⟩ := by
  induction bs generalizing p with
  | nil => simp
  | cons b rest ih =>
    have hrest := ih (p := ⟨p.answers, p.errors ++ complaints p.answers b⟩)
      fun c hc => h c (List.mem_cons_of_mem _ hc)
    rw [List.foldl_cons, checkBlock_of_read (h b List.mem_cons_self), hrest, List.append_assoc,
      List.flatMap_cons]

theorem sanitized_checkBlock {p : Progress} (h : Sanitized p.answers) (b : Block) :
    Sanitized (checkBlock p b).answers := by
  rw [answers_checkBlock]
  cases hget : Entries.get? b.id p.answers with
  | none => exact h
  | some v =>
    have hmem := Entries.mem_of_get? hget
    refine ⟨Entries.keys_put_nodup h.keys, fun e he => ?_, fun e he => ?_⟩
    · rcases Entries.mem_put he with rfl | he
      · exact h.short (b.id, v) hmem
      · exact h.short e he
    · rcases Entries.mem_put he with rfl | he
      · dsimp only
        rw [Block.read_eq]
        split
        · exact sanitize_asNumber (h.fixed (b.id, v) hmem)
        · exact h.fixed (b.id, v) hmem
      · exact h.fixed e he

theorem sanitized_checkBlocks (bs : List Block) {p : Progress} (h : Sanitized p.answers) :
    Sanitized (bs.foldl checkBlock p).answers := by
  induction bs generalizing p with
  | nil => exact h
  | cons b rest ih => exact ih (sanitized_checkBlock h b)

/-- A verdict that is given block by block. -/
structure Blockwise (blocks : List Block) (answers : Answers) (verdict : Verdict) : Prop where
  errors : verdict.errors = blocks.flatMap (complaints answers)
  valid : verdict.valid = true ↔ verdict.errors = []
  keys : Entries.keys verdict.sanitized = Entries.keys answers
  numbers : ∀ b ∈ blocks, b.isNumeric = true → ∃ schema, b.schema? = some schema ∧
    Entries.get? b.id verdict.sanitized =
      (Entries.get? b.id answers).map fun v => (schema.validate v).1
  others : ∀ key, (∀ b ∈ blocks, b.isNumeric = true → b.id ≠ key) →
    Entries.get? key verdict.sanitized = Entries.get? key answers
  stored : stored verdict.sanitized = verdict.sanitized

def stay : List Section :=
  [⟨"guests", "Guests", none, [.question ⟨"n", "Guests", none, true⟩ .number none,
      .unknown "n" "stars" []], []⟩,
    ⟨"names", "Names", none, [.question ⟨"who", "Names", none, true⟩ .long none], []⟩]

def given : List (Key × Value) := [(.text "n", .text " 5 "), (.int 7, .foreign "seven")]

end IntakeForms.Submission
