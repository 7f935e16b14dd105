import IntakeForms.Proposal

/-! Where a reading gets stuck: exactly where the reading of one of its parts does.  Single
values never are, so that a rule, and with it a proposal, is always read or found wrong. -/

namespace IntakeForms

namespace Parsed

variable {α β : Type} {p : Parsed α}

@[simp] theorem map_eq_stuck_iff {f : α → β} : f <$> p = stuck ↔ p = stuck := by
  cases p <;> simp [Functor.map, map]

@[simp] theorem seq_eq_stuck_iff {f : Parsed (α → β)} :
    f <*> p = stuck ↔ f = stuck ∨ p = stuck := by
  cases f <;> cases p <;> simp [Seq.seq, ap]

@[simp] theorem under_eq_stuck_iff {step : Step} : p.under step = stuck ↔ p = stuck := by
  cases p <;> simp [under]

@[simp] theorem fail_ne_stuck (fault : Fault) (v : Value) : (fail fault v : Parsed α) ≠ stuck := by
  simp [fail]

end Parsed

namespace Shape

variable {α : Type} {shape : Shape α}

@[simp] theorem text_ne_stuck (v : Value) : text v ≠ .stuck := by
  cases v <;> simp [text]

@[simp] theorem choice_ne_stuck (fault : Fault) (table : List (String × α)) (v : Value) :
    choice fault table v ≠ .stuck := by
  unfold choice
  split
  · split <;> simp
  · simp

@[simp] theorem flag_ne_stuck (v : Value) : flag v ≠ .stuck := by
  unfold flag
  dsimp only
  repeat' split
  all_goals simp

@[simp] theorem whole_ne_stuck (v : Value) : whole v ≠ .stuck := by
  unfold whole
  repeat' split
  all_goals simp

@[simp] theorem real_ne_stuck (v : Value) : real v ≠ .stuck := by
  unfold real
  repeat' split
  all_goals simp

theorem nullable_eq_stuck_iff {v : Value} :
    nullable shape v = .stuck ↔ v ≠ .null ∧ shape v = .stuck := by
  cases v <;> simp [nullable]

theorem itemsFrom_eq_stuck_iff {items : List Value} (i : Nat) :
    itemsFrom shape i items = .stuck ↔ ∃ v ∈ items, shape v = .stuck := by
  induction items generalizing i with
  | nil => simp [itemsFrom]
  | cons v rest ih => simp [itemsFrom, ih]

theorem listOf_eq_stuck_iff {v : Value} :
    listOf shape v = .stuck ↔ ∃ items, v = .list items ∧ ∃ item ∈ items, shape item = .stuck := by
  cases v <;> simp [listOf, itemsFrom_eq_stuck_iff]

theorem object_eq_stuck_iff {read : Fields → Parsed α} {v : Value} :
    object read v = .stuck ↔ ∃ es, v = .map es ∧ read es = .stuck := by
  cases v <;> simp [object]

end Shape

namespace Fields

variable {α : Type} {shape : Shape α} {es : Fields} {name : Name}

theorem required_eq_stuck_iff :
    es.required name shape = .stuck ↔ ∃ field ∈ es.located name, shape field.2 = .stuck := by
  unfold required
  cases es.located name <;> simp

theorem defaulted_eq_stuck_iff {default : α} :
    es.defaulted name default shape = .stuck ↔
      ∃ field ∈ es.located name, shape field.2 = .stuck := by
  unfold defaulted
  cases es.located name <;> simp

theorem absent_eq_stuck_iff :
    es.absent name shape = .stuck ↔
      ∃ field ∈ es.located name, field.2 ≠ .null ∧ shape field.2 = .stuck := by
  rw [absent, defaulted_eq_stuck_iff]
  simp only [Shape.nullable_eq_stuck_iff]

end Fields

theorem Rule.shape_ne_stuck (v : Value) : Rule.shape v ≠ .stuck := by
  simp [Rule.shape, Shape.object_eq_stuck_iff, Fields.required_eq_stuck_iff,
    Fields.absent_eq_stuck_iff]

theorem SectionRouting.shape_ne_stuck (v : Value) : SectionRouting.shape v ≠ .stuck := by
  simp [SectionRouting.shape, Shape.object_eq_stuck_iff, Fields.required_eq_stuck_iff,
    Fields.defaulted_eq_stuck_iff, Shape.listOf_eq_stuck_iff, Rule.shape_ne_stuck]

theorem Proposal.shape_ne_stuck (v : Value) : Proposal.shape v ≠ .stuck := by
  simp [Proposal.shape, Shape.object_eq_stuck_iff, Fields.defaulted_eq_stuck_iff,
    Fields.absent_eq_stuck_iff, Shape.listOf_eq_stuck_iff, SectionRouting.shape_ne_stuck]

end IntakeForms
