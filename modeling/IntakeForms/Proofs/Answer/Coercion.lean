import IntakeForms.Proofs.Answer.Reading

/-! Number blocks read numbers and nothing else.  What is read is a whole number or a finite
fraction, and these are the values that are read as themselves: to read is to project the answers
that are accepted onto the numbers. -/

namespace IntakeForms

namespace Binary64

theorem exponentField_lt (x : Binary64) : x.exponentField < 2048 := Nat.mod_lt _ (by decide)

theorem isFinite_eq_false_iff {x : Binary64} :
    x.isFinite = false ↔ x.isNaN = true ∨ x.isInfinite = true := by
  have hlt := x.exponentField_lt
  simp only [isFinite, isNaN, isInfinite, decide_eq_false_iff_not, Bool.and_eq_true, beq_iff_eq,
    bne_iff_ne]
  omega

end Binary64

namespace Value

/-- A whole number or a finite fraction. -/
inductive IsNumber : Value → Prop
  | int (n : Int) : IsNumber (.int n)
  | real {x : Binary64} : x.isNaN = false → x.isInfinite = false → IsNumber (.real x)

/-- A truth value, what is not a number or not finite, a list or a map. -/
inductive NoNumber : Value → Prop
  | bool (b : Bool) : NoNumber (.bool b)
  | nan {x : Binary64} : x.isNaN = true → NoNumber (.real x)
  | infinite {x : Binary64} : x.isInfinite = true → NoNumber (.real x)
  | list (items : List Value) : NoNumber (.list items)
  | map (entries : List (Key × Value)) : NoNumber (.map entries)

theorem isNumber_real_iff {x : Binary64} : (Value.real x).IsNumber ↔ x.isFinite = true := by
  rw [← Bool.not_eq_false, Binary64.isFinite_eq_false_iff, not_or, Bool.not_eq_true,
    Bool.not_eq_true]
  constructor
  · intro h
    cases h with
    | real hnan hinf => exact ⟨hnan, hinf⟩
  · rintro ⟨hnan, hinf⟩
    exact .real hnan hinf

end Value

namespace Answer

open Schema

theorem isNumber_of_number? {v n : Value} (h : number? v = some n) : n.IsNumber := by
  rcases number?_cases h with ⟨m, rfl⟩ | ⟨x, hx, rfl⟩
  · exact .int m
  · exact Value.isNumber_real_iff.2 hx

theorem number?_eq_self_iff {v : Value} : number? v = some v ↔ v.IsNumber := by
  refine ⟨isNumber_of_number?, fun h => ?_⟩
  cases h with
  | int n => rfl
  | real hnan hinf =>
    have hfinite := Value.isNumber_real_iff.1 (.real hnan hinf)
    rw [number?, if_pos hfinite]

theorem number?_of_noNumber {v : Value} (h : v.NoNumber) : number? v = none := by
  cases h with
  | bool | list | map => rfl
  | nan hnan =>
    have hfinite := Binary64.isFinite_eq_false_iff.2 (.inl hnan)
    simp [number?, hfinite]
  | infinite hinf =>
    have hfinite := Binary64.isFinite_eq_false_iff.2 (.inr hinf)
    simp [number?, hfinite]

theorem sanitize_of_isNumber {n : Value} (h : n.IsNumber) : sanitize n = n := by
  cases h <;> rfl

variable {s : Schema}

theorem validate_of_number? (hs : s.expected = .number) {v n : Value} (h : number? v = some n) :
    s.validate v = (n, []) := by
  have hblank := blank_of_number? h
  have hmessages : s.messages v = [] := by
    rw [messages_eq_nil_iff, if_neg (by simp [hblank]), hs]
    exact ⟨by simp [fits, h], fun _ => by simp [answers, hblank], tooMany_of_number? h⟩
  rw [← Prod.eta (s.validate v), validate_fst, if_pos hs, asNumber_of_some h]
  exact congrArg (Prod.mk n) hmessages

theorem validate_of_number?_none (hs : s.expected = .number) {v : Value} (hblank : v.blank = false)
    (h : number? v = none) : s.validate v = (v, [s.shapeMessage]) := by
  have hmessages : s.messages v = [s.shapeMessage] := by
    simp [messages, hblank, hs, fits, h]
  rw [← Prod.eta (s.validate v), validate_fst, if_pos hs, asNumber_of_none h]
  exact congrArg (Prod.mk v) hmessages

end Answer

namespace Block

open Answer

theorem shapeMessage_of_isNumeric {b : Block} {s : Schema} (hb : b.isNumeric = true)
    (h : b.schema? = some s) : s.shapeMessage = b.labelText ++ " must be a number" := by
  cases b with
  | question a input options =>
    cases input with
    | slider | number =>
      cases h
      exact congrArg (· ++ " must be a number") (Value.display_text _).symm
    | _ => cases hb
  | _ => cases hb

/-- A number block projects the answers that it accepts onto the numbers.  What it keeps of one is
a number, which it accepts and keeps as it is, and so does the bounding of answers; a number is
accepted and kept, and what is no number and no text is refused and left alone. -/
theorem numeric_projects {b : Block} (hb : b.isNumeric = true) :
    ∃ s, b.schema? = some s ∧ s.shapeMessage = b.labelText ++ " must be a number" ∧
      ∀ v, v.blank = false →
        ((s.validate v).2 = [] → ∃ n, s.validate v = (n, []) ∧ n.IsNumber ∧
          s.validate n = (n, []) ∧ sanitize n = n ∧ (v.IsNumber → n = v)) ∧
        (v.IsNumber → s.validate v = (v, [])) ∧
        (v.NoNumber → s.validate v = (v, [s.shapeMessage])) := by
  obtain ⟨s, h⟩ := exists_schema?_of_isNumeric hb
  have hs : s.expected = .number := (expected_of_schema? h).1.2 hb
  have kept : ∀ n : Value, n.IsNumber → s.validate n = (n, []) :=
    fun n hn => validate_of_number? hs (number?_eq_self_iff.2 hn)
  refine ⟨s, h, shapeMessage_of_isNumeric hb h, fun v hblank => ⟨fun hfree => ?_, kept v, ?_⟩⟩
  · obtain ⟨n, hn⟩ := Option.isSome_iff_exists.1 (isSome_number?_of_messages hs hfree hblank)
    have hnumber := isNumber_of_number? hn
    refine ⟨n, validate_of_number? hs hn, hnumber, kept n hnumber, sanitize_of_isNumber hnumber,
      fun hv => ?_⟩
    exact Option.some.inj (hn.symm.trans (number?_eq_self_iff.2 hv))
  · exact fun hv => validate_of_number?_none hs hblank (number?_of_noNumber hv)

def budget : Block := .question ⟨"budget", "Budget", none, true⟩ .number none

theorem numeric_projects_budget :
    budget.isNumeric = true ∧ ∃ s, budget.schema? = some s ∧
      (s.validate (.text " +1_000.00 ")).2 = [] ∧
      (∃ n, s.validate (.text " +1_000.00 ") = (n, []) ∧ n.IsNumber ∧ s.validate n = (n, [])) ∧
      s.validate (.int 0) = (.int 0, []) ∧
      s.validate (.real Binary64.nan) = (.real Binary64.nan, ["Budget must be a number"]) := by
  obtain ⟨s, hs, hmessage, h⟩ := numeric_projects (b := budget) rfl
  have hfree : (s.validate (.text " +1_000.00 ")).2 = [] := by
    cases hs
    decide +kernel
  obtain ⟨n, hkept, hnumber, hagain, -, -⟩ := (h (.text " +1_000.00 ") (by decide)).1 hfree
  have hnan := (h (.real Binary64.nan) (by decide)).2.2 (.nan (by decide))
  rw [hmessage] at hnan
  exact ⟨rfl, s, hs, hfree, ⟨n, hkept, hnumber, hagain⟩, (h (.int 0) rfl).2.1 (.int 0), hnan⟩

/-- Zeros after a point leave a whole number whole, and a point alone does not. -/
example : Schema.number? (.text " +1_000.00 ") = some (.int 1000) ∧
    Schema.number? (.text "5.") = some (.real (Binary64.ofInt 5)) := by decide +kernel

end Block

end IntakeForms
