import IntakeForms.Flow.Route
import IntakeForms.Proofs.Answer.Bounds

/-! Answers that rules read alike before and after they are stored.  Storing answers cuts
and trims their texts and cuts their lists and keys; where there is nothing to cut or
to trim, a form leads on as it did. -/

namespace IntakeForms.Answer

def stored (answers : Answers) : Answers := sanitizeAll (answers.map fun p => (.text p.1, p.2))

def TextKept : Value → Prop
  | .text s => tidy s = s
  | .moment _ | .foreign _ => False
  | _ => True

def Kept : Value → Prop
  | .list items => items.length ≤ maxItems ∧ ∀ v ∈ items, TextKept v
  | v => TextKept v

/-- Every answer is kept, and so are the keys. -/
structure Tidy (answers : Answers) : Prop where
  keys : (Entries.keys answers).Nodup
  short : ∀ p ∈ answers, p.1.length ≤ maxKey
  kept : ∀ p ∈ answers, Kept p.2

theorem answerMatches_list (items : List Value) (expected : String) :
    Flow.answerMatches (some (.list items)) expected = items.any (· == .text expected) := by
  unfold Flow.answerMatches
  refine congrArg items.any (funext fun v => ?_)
  rw [Bool.eq_iff_iff]
  cases v <;> simp

theorem sanitizeIn_eq_text_iff {room : Nat} {v : Value} (h : TextKept v) (expected : String) :
    sanitizeIn room v = .text expected ↔ v = .text expected := by
  cases v with
  | text s => rw [sanitizeIn, h]
  | moment t => exact h.elim
  | foreign s => exact h.elim
  | list items => cases room <;> simp [sanitizeIn]
  | map entries => cases room <;> simp [sanitizeIn, Value.object]
  | _ => cases room <;> simp [sanitizeIn]

theorem answerMatches_sanitize {v : Value} (h : Kept v) (expected : String) :
    Flow.answerMatches (some (sanitize v)) expected = Flow.answerMatches (some v) expected := by
  cases v with
  | list items =>
    obtain ⟨hlength, hitems⟩ := h
    rw [sanitize, maxDepth, sanitizeIn, List.take_of_length_le hlength, answerMatches_list,
      answerMatches_list, List.any_map, Bool.eq_iff_iff, List.any_eq_true, List.any_eq_true]
    refine exists_congr fun v => and_congr_right fun hv => ?_
    simp [sanitizeIn_eq_text_iff (hitems v hv)]
  | text s =>
    have hs : tidy s = s := h
    rw [sanitize, sanitizeIn, hs]
  | moment t => exact h.elim
  | foreign s => exact h.elim
  | _ => rfl

theorem stored_of_short {answers : Answers} (hkeys : (Entries.keys answers).Nodup)
    (hshort : ∀ p ∈ answers, p.1.length ≤ maxKey) :
    stored answers = answers.map fun p => (p.1, sanitize p.2) := by
  have hkeys' : (Entries.keys (answers.map fun p => (p.1, sanitize p.2))).Nodup := by
    simpa [Entries.keys, Function.comp_def] using hkeys
  rw [stored, sanitizeAll, List.map_map]
  refine (congrArg Entries.ofList (List.map_congr_left fun p hp => ?_)).trans
    (Entries.ofList_of_nodup hkeys')
  simp [keyName, Key.display, Text.clip_of_length_le (hshort p hp)]

/-- Answers as they are kept: bounded, under short keys that differ. -/
structure Sanitized (answers : Answers) : Prop where
  keys : (Entries.keys answers).Nodup
  short : ∀ p ∈ answers, p.1.length ≤ maxKey
  fixed : ∀ p ∈ answers, sanitize p.2 = p.2

theorem sanitized_sanitizeAll (entries : List (Key × Value)) : Sanitized (sanitizeAll entries) := by
  have hmem : ∀ p ∈ sanitizeAll entries, ∃ k v, p = (keyName k, sanitize v) := by
    intro p hp
    obtain ⟨e, -, rfl⟩ := List.mem_map.1 (Entries.mem_of_mem_ofList hp)
    exact ⟨e.1, e.2, rfl⟩
  refine ⟨Entries.keys_ofList_nodup _, fun p hp => ?_, fun p hp => ?_⟩
  · obtain ⟨k, v, rfl⟩ := hmem p hp
    exact keyName_length_le k
  · obtain ⟨k, v, rfl⟩ := hmem p hp
    exact sanitize_of_bounded (bounded_sanitize v)

theorem Sanitized.stored_eq {answers : Answers} (h : Sanitized answers) :
    stored answers = answers := by
  rw [stored_of_short h.keys h.short]
  refine (List.map_congr_left fun p hp => ?_).trans (List.map_id _)
  exact Prod.ext rfl (h.fixed p hp)

theorem stored_of_tidy {answers : Answers} (h : Tidy answers) :
    stored answers = answers.map fun p => (p.1, sanitize p.2) :=
  stored_of_short h.keys h.short

theorem ruleHolds_stored {answers : Answers} (h : Tidy answers) :
    Flow.ruleHolds (stored answers) = Flow.ruleHolds answers := by
  funext r
  unfold Flow.ruleHolds
  split
  · next b v _ _ =>
    rw [stored_of_tidy h, Entries.get?_map]
    cases hget : Entries.get? b answers with
    | none => rfl
    | some a => exact answerMatches_sanitize (h.kept _ (Entries.mem_of_get? hget)) v
  · rfl

theorem resolveAt_stored {answers : Answers} (h : Tidy answers) (sections : List Section) :
    Flow.resolveAt sections (stored answers) = Flow.resolveAt sections answers := by
  have hnext : ∀ s, Flow.resolveNext s (stored answers) = Flow.resolveNext s answers := by
    intro s
    rw [Flow.resolveNext, Flow.matchConditional, ruleHolds_stored h, Flow.resolveNext,
      Flow.matchConditional]
  funext id
  simp only [Flow.resolveAt, hnext]

theorem tracePath_stored {answers : Answers} (h : Tidy answers) (sections : List Section)
    (start : Option String) :
    Flow.tracePath sections (stored answers) start = Flow.tracePath sections answers start := by
  rw [Flow.tracePath, resolveAt_stored h, Flow.tracePath]

end IntakeForms.Answer
