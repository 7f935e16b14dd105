import IntakeForms.Answer.Sanitize
import IntakeForms.Proofs.Answer.Number

/-! What a block makes of an answer.  Only a number block keeps something else than it was
given, and what it keeps is accepted by every block that accepted the answer, unless that
block takes a text. -/

namespace IntakeForms

namespace Answer

open Schema

theorem messages_eq_nil_iff {s : Schema} {v : Value} :
    s.messages v = [] ↔ if v.blank then s.required = false
      else fits s.expected v = true ∧ (s.required = true → answers s.expected v = true) ∧
        s.tooMany v = false := by
  rw [messages]
  by_cases hblank : v.blank = true
  · simp [hblank]
  · by_cases hfits : fits s.expected v = true
    · simp [hblank, hfits]
    · simp [hblank, hfits]

theorem validate_fst (s : Schema) (v : Value) :
    (s.validate v).1 = if s.expected = .number then asNumber v else v := by
  rw [validate]
  by_cases hblank : v.blank = true
  · simp [hblank, asNumber_of_none (number?_of_blank hblank)]
  · simp [hblank, kept, asNumber]

theorem messages_permissive (id : String) (label v : Value) :
    (permissive id label).messages v = [] := by
  rw [messages_eq_nil_iff]
  split
  · rfl
  · simp [permissive, fits, tooMany]

theorem sanitize_asNumber {v : Value} (h : sanitize v = v) : sanitize (asNumber v) = asNumber v := by
  cases hn : number? v with
  | none => rw [asNumber_of_none hn, h]
  | some n =>
    rw [asNumber_of_some hn]
    rcases number?_cases hn with ⟨m, rfl⟩ | ⟨x, -, rfl⟩ <;> rfl

theorem blank_of_number? {v n : Value} (h : number? v = some n) : v.blank = false := by
  by_contra hblank
  rw [number?_of_blank (by simpa using hblank)] at h
  cases h

theorem fits_of_number? {e : Expected} {v n : Value} (hn : number? v = some n)
    (hfits : fits e v = true) : e = .text ∨ e = .number ∨ e = .flag ∨ e = .anything := by
  have hv : (∃ m, v = .int m) ∨ (∃ x, v = .real x) ∨ ∃ s, v = .text s := by
    cases v with
    | int m => exact .inl ⟨m, rfl⟩
    | real x => exact .inr (.inl ⟨x, rfl⟩)
    | text s => exact .inr (.inr ⟨s, rfl⟩)
    | _ => cases hn
  rcases hv with ⟨m, rfl⟩ | ⟨x, rfl⟩ | ⟨s, rfl⟩ <;>
    cases e <;> simp_all [fits, isTexts, isBuckets]

theorem tooMany_of_number? {s : Schema} {v n : Value} (hn : number? v = some n) :
    s.tooMany v = false := by
  cases v with
  | list => cases hn
  | _ => cases hmax : s.maxItems <;> simp [tooMany, hmax]

theorem messages_of_number? {s : Schema} {v n : Value} (hn : number? v = some n)
    (h : s.messages v = []) (htext : s.expected ≠ .text) : s.messages n = [] := by
  have hblank := blank_of_number? (number?_number? hn)
  have hfew : s.tooMany n = false := tooMany_of_number? (number?_number? hn)
  rw [messages_eq_nil_iff, if_neg (by simp [blank_of_number? hn])] at h
  rw [messages_eq_nil_iff, if_neg (by simp [hblank])]
  obtain ⟨hfits, hanswers, -⟩ := h
  rcases fits_of_number? hn hfits with he | he | he | he
  · exact absurd he htext
  · rw [he]
    exact ⟨by simp [fits, number?_number? hn], fun _ => by simp [answers, hblank], hfew⟩
  · rw [he] at hfits hanswers ⊢
    cases hflag : Shape.flag v with
    | ok b =>
      have hflag' := flag_of_number? hflag hn
      simp only [fits, isFlag, answers, hflag, hflag'] at hfits hanswers ⊢
      exact ⟨hfits, hanswers, hfew⟩
    | problems ps => simp [fits, isFlag, hflag, Parsed.toOption] at hfits
    | stuck => simp [fits, isFlag, hflag, Parsed.toOption] at hfits
  · rw [he]
    exact ⟨rfl, fun _ => by simp [answers, hblank], hfew⟩

theorem messages_ne_nil_of_number? {s : Schema} {v n : Value} (hn : number? v = some n)
    (htext : s.expected = .text) : s.messages n ≠ [] := by
  rw [Ne, messages_eq_nil_iff, if_neg (by simp [blank_of_number? (number?_number? hn)]), htext]
  rcases number?_cases hn with ⟨m, rfl⟩ | ⟨x, -, rfl⟩ <;> simp [fits, isText]

theorem isSome_number?_of_messages {s : Schema} {v : Value} (hs : s.expected = .number)
    (h : s.messages v = []) (hblank : v.blank = false) : (number? v).isSome = true := by
  rw [messages_eq_nil_iff, if_neg (by simp [hblank]), hs] at h
  exact h.1

end Answer

namespace Block

/-- A question that is answered by a number. -/
def isNumeric : Block → Bool
  | .question _ .slider _ | .question _ .number _ => true
  | _ => false

def takesText : Block → Bool
  | .question _ .short _ | .question _ .long _ | .question _ .select _ | .question _ .date _
  | .question _ .file _ | .imageChoice _ false _ => true
  | _ => false

theorem expected_of_schema? {b : Block} {s : Answer.Schema} (h : b.schema? = some s) :
    (s.expected = .number ↔ b.isNumeric = true) ∧ (s.expected = .text ↔ b.takesText = true) := by
  cases b with
  | question a input options =>
    cases h
    cases input <;> simp [Answer.Schema.ofQuestion, isNumeric, takesText]
  | imageChoice a multi options =>
    cases multi <;> cases h <;> simp [isNumeric, takesText]
  | links | moodboard | sorting | bookCall | unknown =>
    cases h
    simp [isNumeric, takesText, Answer.Schema.permissive]
  | _ => cases h

theorem exists_schema?_of_asks {b : Block} (h : b.asks = true) : ∃ s, b.schema? = some s := by
  cases b with
  | imageChoice a multi options => cases multi <;> exact ⟨_, rfl⟩
  | question | links | moodboard | sorting | bookCall => exact ⟨_, rfl⟩
  | _ => cases h

theorem asks_of_isNumeric {b : Block} (h : b.isNumeric = true) : b.asks = true := by
  cases b with
  | question a input options => rfl
  | _ => simp [isNumeric] at h

theorem asks_of_takesText {b : Block} (h : b.takesText = true) : b.asks = true := by
  cases b with
  | question | imageChoice => rfl
  | _ => simp [takesText] at h

theorem exists_schema?_of_isNumeric {b : Block} (h : b.isNumeric = true) :
    ∃ s, b.schema? = some s :=
  exists_schema?_of_asks (asks_of_isNumeric h)

theorem exists_schema?_of_takesText {b : Block} (h : b.takesText = true) :
    ∃ s, b.schema? = some s :=
  exists_schema?_of_asks (asks_of_takesText h)

/-- What a block keeps of an answer. -/
def read (b : Block) (v : Value) : Value :=
  match b.schema? with
  | some s => (s.validate v).1
  | none => v

theorem read_eq (b : Block) (v : Value) :
    b.read v = if b.isNumeric then Answer.asNumber v else v := by
  rw [read]
  cases h : b.schema? with
  | some s => simp only [Answer.validate_fst, (expected_of_schema? h).1]
  | none =>
    have hnot : ¬ b.isNumeric = true := fun hb => by
      obtain ⟨s, hs⟩ := exists_schema?_of_isNumeric hb
      rw [h] at hs
      cases hs
    simp [hnot]

end Block

end IntakeForms
