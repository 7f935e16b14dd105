import IntakeForms.Proofs.Flow.Identifiers
import IntakeForms.Proofs.Submission.Again

/-! Whether a form that can be published can be filled in.  A block is answered under its
identifier, and answers are looked up once their keys are cut.  So a form whose blocks share
no identifier can be filled in exactly if every block that demands an answer has an identifier
that is not cut; one answer a block will do then. -/

namespace IntakeForms

open Answer

def Answer.Expected.sample : Expected → Value
  | .text | .anything => .text "x"
  | .texts => .list [.text "x"]
  | .number => .int 1
  | .links => .list [.text "http://x"]
  | .buckets => .object [("yes", .list [.text "x"])]
  | .flag => .bool true

namespace Block

/-- The block refuses a blank answer. -/
def demands (b : Block) : Bool := b.schema?.any (·.required)

def sample (b : Block) : Value := b.schema?.elim .null (·.expected.sample)

theorem demands_iff {b : Block} :
    b.demands = true ↔ ∃ schema, b.schema? = some schema ∧ schema.required = true := by
  rw [demands, Option.any_eq_true]

theorem maxItems_pos {b : Block} {s : Schema} (h : b.schema? = some s) {n : Int}
    (hn : s.maxItems = some n) : 0 < n := by
  have limit : ∀ {m : Option Int}, Schema.limit m = some n → 0 < n := by
    intro m hm
    unfold Schema.limit at hm
    split at hm
    · split_ifs at hm with hpos
      exact Option.some.inj hm ▸ hpos
    · cases hm
  cases b with
  | links a maxItems =>
    cases h
    exact limit hn
  | question a input options =>
    cases h
    cases input <;> cases hn
  | imageChoice a multi options => cases multi <;> cases h <;> cases hn
  | moodboard | sorting | bookCall | unknown =>
    cases h
    cases hn
  | _ => cases h

end Block

namespace Answer

theorem sanitize_sample (e : Expected) : sanitize e.sample = e.sample := by
  cases e <;> cbv

theorem sample_accepted (e : Expected) :
    e.sample.blank = false ∧ Schema.fits e e.sample = true ∧ Schema.answers e e.sample = true := by
  cases e <;> cbv

theorem length_sample {e : Expected} {items : List Value} (h : e.sample = .list items) :
    items.length = 1 := by
  cases e <;> cases h <;> rfl

theorem messages_null_iff {s : Schema} : s.messages .null = [] ↔ s.required = false := by
  rw [messages_eq_nil_iff]
  rfl

theorem messages_sample {b : Block} {s : Schema} (h : b.schema? = some s) :
    s.messages s.expected.sample = [] := by
  obtain ⟨hblank, hfits, hanswers⟩ := sample_accepted s.expected
  rw [messages_eq_nil_iff, if_neg (by simp [hblank])]
  refine ⟨hfits, fun _ => hanswers, ?_⟩
  unfold Schema.tooMany
  split
  · next n items hmax hitems =>
    have := Block.maxItems_pos h hmax
    rw [length_sample hitems]
    simp
    omega
  · rfl

end Answer

namespace Submission

theorem answerTo_long {answers : Answers} (h : Sanitized answers) {id : String}
    (hlong : maxKey < id.length) : answerTo id answers = .null := by
  rw [answerTo]
  cases hget : Entries.get? id answers with
  | none => rfl
  | some v => exact absurd (h.short _ (Entries.mem_of_get? hget)) (Nat.not_le.2 hlong)

theorem complaints_long {answers : Answers} (h : Sanitized answers) {b : Block}
    (hdemands : b.demands = true) (hlong : maxKey < b.id.length) : complaints answers b ≠ [] := by
  obtain ⟨s, hs, hrequired⟩ := Block.demands_iff.1 hdemands
  rw [Ne, complaints_eq_nil_iff]
  intro hnil
  have hnil := hnil s hs
  rw [answerTo_long h hlong, messages_null_iff, hrequired] at hnil
  cases hnil

theorem short_of_valid {sections : List Section} {visited : Option (List String)}
    {entries : List (Key × Value)} {verdict : Verdict}
    (h : validate? sections visited (.map entries) = some verdict) (hvalid : verdict.valid = true)
    {b : Block} (hb : b ∈ blocksInScope sections visited) (hdemands : b.demands = true) :
    b.id.length ≤ maxKey := by
  by_contra hlong
  have hlong := Nat.not_le.1 hlong
  have hsanitized := sanitized_sanitizeAll entries
  have hverdict := Option.some.inj h
  rw [judge_eq] at hverdict
  subst hverdict
  rcases complaints_of_errors (List.isEmpty_iff.1 hvalid) hb with hnil | hnil
  · exact complaints_long hsanitized hdemands hlong hnil
  · exact complaints_long (sanitized_checkBlocks _ hsanitized) hdemands hlong hnil

def filled (blocks : List Block) : Answers :=
  (blocks.filter Block.demands).map fun b => (b.id, b.sample)

section

variable {blocks : List Block}

theorem keys_filled (hids : (blocks.map Block.id).Nodup) :
    (Entries.keys (filled blocks)).Nodup := by
  have heq : Entries.keys (filled blocks) = (blocks.filter Block.demands).map Block.id := by
    rw [Entries.keys, filled, List.map_map]
    rfl
  rw [heq]
  exact (List.filter_sublist.map _).nodup hids

theorem stored_filled (hids : (blocks.map Block.id).Nodup)
    (hshort : ∀ b ∈ blocks, b.demands = true → b.id.length ≤ maxKey) :
    stored (filled blocks) = filled blocks := by
  have hmem : ∀ p ∈ filled blocks, ∃ b ∈ blocks, b.demands = true ∧ p = (b.id, b.sample) := by
    intro p hp
    obtain ⟨b, hb, rfl⟩ := List.mem_map.1 hp
    exact ⟨b, (List.mem_filter.1 hb).1, (List.mem_filter.1 hb).2, rfl⟩
  rw [stored_of_short (keys_filled hids)]
  · refine (List.map_congr_left fun p hp => ?_).trans (List.map_id _)
    obtain ⟨b, -, hdemands, rfl⟩ := hmem p hp
    obtain ⟨s, hs, -⟩ := Block.demands_iff.1 hdemands
    simp [Block.sample, hs, sanitize_sample]
  · intro p hp
    obtain ⟨b, hb, hdemands, rfl⟩ := hmem p hp
    exact hshort b hb hdemands

theorem answerTo_filled (hids : (blocks.map Block.id).Nodup) {b : Block} (hb : b ∈ blocks) :
    answerTo b.id (filled blocks) = if b.demands = true then b.sample else .null := by
  rw [answerTo]
  split_ifs with hdemands
  · have hmem : (b.id, b.sample) ∈ filled blocks :=
      List.mem_map.2 ⟨b, List.mem_filter.2 ⟨hb, hdemands⟩, rfl⟩
    rw [Entries.get?_of_mem (keys_filled hids) hmem]
    rfl
  · cases hget : Entries.get? b.id (filled blocks) with
    | none => rfl
    | some v =>
      obtain ⟨c, hc, heq⟩ := List.mem_map.1 (Entries.mem_of_get? hget)
      obtain ⟨hc, hdemanded⟩ := List.mem_filter.1 hc
      obtain rfl := List.inj_on_of_nodup_map hids hc hb (congrArg Prod.fst heq)
      exact absurd hdemanded hdemands

theorem complaints_filled (hids : (blocks.map Block.id).Nodup) {b : Block} (hb : b ∈ blocks) :
    complaints (filled blocks) b = [] := by
  rw [complaints_eq_nil_iff]
  intro s hs
  rw [answerTo_filled hids hb]
  split_ifs with hdemands
  · rw [Block.sample, hs]
    exact messages_sample hs
  · rw [messages_null_iff]
    by_contra hrequired
    exact hdemands (Block.demands_iff.2 ⟨s, hs, by simpa using hrequired⟩)

end

theorem valid_filled {sections : List Section} {visited : Option (List String)}
    (hids : ((blocksInScope sections visited).map Block.id).Nodup)
    (hshort : ∀ b ∈ blocksInScope sections visited, b.demands = true → b.id.length ≤ maxKey) :
    ∃ verdict,
      validate? sections visited (.object (filled (blocksInScope sections visited))) =
        some verdict ∧ verdict.valid = true := by
  refine ⟨_, rfl, ?_⟩
  have hdistinct : (blocksInScope sections visited).Pairwise
      fun b c => b.asks = true → c.asks = true → b.id ≠ c.id :=
    (List.pairwise_map.1 hids).imp fun h _ _ => h
  change (judge sections visited (stored (filled (blocksInScope sections visited)))).valid = true
  rw [stored_filled hids hshort, judge_eq]
  dsimp only
  rw [errors_checkBlocks hdistinct, List.nil_append, List.isEmpty_iff, List.flatMap_eq_nil_iff]
  exact fun b hb => complaints_filled hids hb

theorem blockIds_inScope {sections : List Section} (visited : Option (List String))
    (hids : ((sections.flatMap Section.blocks).map Block.id).Nodup) :
    ((blocksInScope sections visited).map Block.id).Nodup := by
  cases visited with
  | none => exact hids
  | some ids => exact ((List.filter_sublist.flatMap _).map _).nodup hids

/-- A form that can be published, and whose sections share no block, can be filled in over the
sections in scope exactly if no block there that demands an answer has an identifier longer than
the key of an answer. -/
theorem fillable_iff {policy : Flow.Policy} {sections : List Section}
    (visited : Option (List String)) (valid : (Flow.check policy sections).isValid = true)
    (unshared : ∀ i ∈ (Flow.check policy sections).warnings, i.code ≠ "shared_block_id") :
    (∃ entries verdict, validate? sections visited (.map entries) = some verdict ∧
        verdict.valid = true) ↔
      ∀ b ∈ blocksInScope sections visited, b.demands = true → b.id.length ≤ maxKey := by
  constructor
  · rintro ⟨entries, verdict, h, hvalid⟩ b hb hdemands
    exact short_of_valid h hvalid hb hdemands
  · intro hshort
    have hids := blockIds_inScope visited (Flow.blockIds_nodup_of_check valid unshared)
    exact ⟨_, valid_filled hids hshort⟩

def outing : List Section :=
  [⟨"start", "Outing", none,
      [.heading "top" "Outing" .h1, .question ⟨"name", "Name", none, true⟩ .short none,
        .question ⟨"days", "Days", none, true⟩ .multi (some ["Sat", "Sun"]),
        .question ⟨"count", "Guests", none, true⟩ .slider none,
        .question ⟨"notes", "Notes", none, false⟩ .long none],
      [⟨"on", .any, none, none, "taste"⟩]⟩,
    ⟨"taste", "Taste", none,
      [.links ⟨"maps", "Maps", none, true⟩ (some 1),
        .sorting ⟨"views", "Views", none, true⟩ [],
        .bookCall ⟨"call", "Call", none, false⟩ ⟨"https://x", none, none, none, none, true⟩], []⟩]

theorem fillable_outing :
    (Flow.check {} outing).isValid = true ∧
    (∀ i ∈ (Flow.check {} outing).warnings, i.code ≠ "shared_block_id") ∧
    ∃ entries verdict, validate? outing none (.map entries) = some verdict ∧
      verdict.valid = true := by
  have valid : (Flow.check {} outing).isValid = true := by cbv
  have unshared : ∀ i ∈ (Flow.check {} outing).warnings, i.code ≠ "shared_block_id" := by
    have clear : (Flow.check {} outing).warnings = [] := by cbv
    simp [clear]
  exact ⟨valid, unshared, (fillable_iff none valid unshared).2 (by decide)⟩

def asking (id : String) : Section :=
  ⟨"start", "", none, [.question ⟨id, "Name", none, true⟩ .short none], []⟩

def tooLong : String := String.ofList (List.replicate (maxKey + 1) 'x')

theorem maxKey_lt_tooLong : maxKey < tooLong.length := by
  rw [tooLong, String.length_ofList, List.length_replicate]
  exact Nat.lt_succ_self _

/-- The answer is kept under a shorter key than it is looked up by. -/
theorem asking_tooLong_refused :
    (Flow.check {} [asking tooLong]).isValid = true ∧
    (∀ i ∈ (Flow.check {} [asking tooLong]).warnings, i.code ≠ "shared_block_id") ∧
    ∀ entries verdict, validate? [asking tooLong] none (.map entries) = some verdict →
      verdict.valid = false := by
  have checked (id : String) : (Flow.check {} [asking id]).isValid = true ∧
      (Flow.check {} [asking id]).warnings = [] := by cbv
  obtain ⟨valid, clear⟩ := checked tooLong
  refine ⟨valid, by simp [clear], fun entries verdict h => ?_⟩
  by_contra hvalid
  have hshort := short_of_valid h (by simpa using hvalid) (List.mem_singleton.2 rfl) rfl
  exact absurd hshort (Nat.not_le.2 maxKey_lt_tooLong)

end Submission

end IntakeForms
