import IntakeForms.Form.Document
import IntakeForms.Proofs.Document.Stuck

/-! Which forms are never read.  A block gets stuck exactly on a tag that is a list or a map, a
section and a draft exactly on such a block, wherever else they may be wrong. -/

namespace IntakeForms

namespace Value

def isContainer : Value → Bool
  | .list _ | .map _ => true
  | _ => false

def items : Value → List Value
  | .list items => items
  | _ => []

/-- What is under a name; null if nothing is. -/
def part (name : String) : Value → Value
  | .map es => (field? name es).getD .null
  | _ => .null

end Value

/-- Something is read, or problems are found. -/
def Parsed.Settled {α : Type} (p : Parsed α) : Prop :=
  (∃ a, p = .ok a) ∨ ∃ ps, p = .problems ps

theorem Parsed.settled_iff {α : Type} {p : Parsed α} : p.Settled ↔ p ≠ .stuck := by
  cases p <;> simp [Settled]

namespace Fields

variable {α : Type} {shape : Shape α} {es : Fields}

theorem located_word (name : String) :
    es.located (.word name) = (Value.field? name es).map fun v => (name, v) := by
  unfold located Name.word
  cases Value.field? name es <;> rfl

theorem defaulted_listOf_eq_stuck_iff {name : String} {default : List α} :
    es.defaulted (.word name) default (Shape.listOf shape) = .stuck ↔
      ∃ item ∈ ((Value.map es).part name).items, shape item = .stuck := by
  rw [defaulted_eq_stuck_iff, located_word]
  cases hfield : Value.field? name es with
  | none => simp [Value.part, hfield, Value.items]
  | some v => cases v <;> simp [Value.part, hfield, Value.items, Shape.listOf_eq_stuck_iff]

end Fields

namespace Block

theorem ask_ne_stuck (es : Fields) : Ask.read es ≠ .stuck := by
  simp [Ask.read, Fields.required_eq_stuck_iff, Fields.defaulted_eq_stuck_iff,
    Fields.absent_eq_stuck_iff]

theorem imageOption_ne_stuck (v : Value) : ImageOption.shape v ≠ .stuck := by
  simp [ImageOption.shape, Shape.object_eq_stuck_iff, Fields.required_eq_stuck_iff,
    Fields.defaulted_eq_stuck_iff, Fields.absent_eq_stuck_iff]

theorem imageItem_ne_stuck (v : Value) : ImageItem.shape v ≠ .stuck := by
  simp [ImageItem.shape, Shape.object_eq_stuck_iff, Fields.required_eq_stuck_iff,
    Fields.defaulted_eq_stuck_iff, Fields.absent_eq_stuck_iff]

theorem booking_ne_stuck (es : Fields) : Booking.read es ≠ .stuck := by
  simp [Booking.read, Fields.defaulted_eq_stuck_iff, Fields.absent_eq_stuck_iff]

attribute [local simp] ask_ne_stuck imageOption_ne_stuck imageItem_ne_stuck booking_ne_stuck
  Fields.required_eq_stuck_iff Fields.defaulted_eq_stuck_iff Fields.absent_eq_stuck_iff
  Shape.listOf_eq_stuck_iff

theorem extras_ne_stuck (es : Fields) : extras es ≠ .stuck := by
  induction es with
  | nil => simp [extras]
  | cons e rest ih =>
    obtain ⟨k, v⟩ := e
    cases k with
    | text k =>
      simp only [extras]
      split <;> simp [ih]
    | _ => simp [extras, ih]

theorem readUnknown_ne_stuck (es : Fields) : readUnknown es ≠ .stuck := by
  simp [readUnknown, extras_ne_stuck]

theorem ne_stuck_of_mem_readers {tag : String} {read : Fields → Parsed Block}
    (h : (tag, read) ∈ readers) (es : Fields) : read es ≠ .stuck := by
  simp only [readers, List.mem_cons, Prod.mk.injEq, List.not_mem_nil, or_false] at h
  rcases h with h | h | h | h | h | h | h | h | h | h | h | h <;> obtain ⟨-, rfl⟩ := h
  · simp [readContext]
  · simp [readHeading]
  · simp [readDivider]
  · simp [readImage]
  · simp [readVideo]
  · simp [readQuote]
  · simp [readQuestion]
  · simp [readImageChoice]
  · simp [readLinks]
  · simp [readMoodboard]
  · simp [readSorting]
  · simp [readBookCall]

theorem readTagged_ne_stuck (tag : String) (es : Fields) : readTagged tag es ≠ .stuck := by
  rw [readTagged]
  cases hread : readers.lookup tag with
  | none => simp [readUnknown_ne_stuck]
  | some read =>
    obtain ⟨before, after, heq, -⟩ := List.lookup_eq_some_iff.1 hread
    have hmem : (tag, read) ∈ readers := by simp [heq]
    simp [ne_stuck_of_mem_readers hmem]

theorem shape_eq_stuck_iff {v : Value} :
    shape v = .stuck ↔ (v.part "type").isContainer = true := by
  cases v with
  | map es =>
    rw [shape, Value.part]
    cases htype : Value.field? "type" es with
    | none => simp [Value.isContainer, readUnknown_ne_stuck]
    | some tag => cases tag <;> simp [Value.isContainer, readUnknown_ne_stuck, readTagged_ne_stuck]
  | _ => simp [shape, Value.part, Value.isContainer]

theorem settled_shape_iff {v : Value} :
    (shape v).Settled ↔ (v.part "type").isContainer = false := by
  rw [Parsed.settled_iff, Ne, shape_eq_stuck_iff, Bool.not_eq_true]

end Block

/-- No block of the sections has a tag that is a list or a map. -/
def Value.PlainlyTagged (sections : List Value) : Prop :=
  ∀ s ∈ sections, ∀ b ∈ (s.part "blocks").items, (b.part "type").isContainer = false

theorem Value.not_plainlyTagged_iff {sections : List Value} :
    ¬ PlainlyTagged sections ↔
      ∃ s ∈ sections, ∃ b ∈ (s.part "blocks").items, (b.part "type").isContainer = true := by
  simp [PlainlyTagged]

namespace Section

theorem rulesShape_ne_stuck (v : Value) : rulesShape v ≠ .stuck := by
  cases v <;> simp [rulesShape, Shape.listOf_eq_stuck_iff, Rule.shape_ne_stuck]

theorem shape_eq_stuck_iff {v : Value} :
    shape v = .stuck ↔ ∃ b ∈ (v.part "blocks").items, (b.part "type").isContainer = true := by
  rw [shape, Shape.object_eq_stuck_iff]
  simp only [Parsed.seq_eq_stuck_iff, Parsed.map_eq_stuck_iff,
    Fields.defaulted_listOf_eq_stuck_iff, Block.shape_eq_stuck_iff]
  cases v with
  | map es =>
    simp [Fields.required_eq_stuck_iff, Fields.defaulted_eq_stuck_iff, Fields.absent_eq_stuck_iff,
      rulesShape_ne_stuck]
  | _ => simp [Value.part, Value.items]

end Section

theorem Background.shape_ne_stuck (v : Value) : Background.shape v ≠ .stuck := by
  simp [Background.shape, Shape.object_eq_stuck_iff, Fields.defaulted_eq_stuck_iff,
    Fields.absent_eq_stuck_iff, Shape.listOf_eq_stuck_iff]

theorem Theme.shape_ne_stuck (v : Value) : Theme.shape v ≠ .stuck := by
  simp [Theme.shape, Shape.object_eq_stuck_iff, Fields.absent_eq_stuck_iff,
    Background.shape_ne_stuck]

theorem Metadata.shape_ne_stuck (v : Value) : Metadata.shape v ≠ .stuck := by
  simp [Metadata.shape, Shape.object_eq_stuck_iff, Fields.defaulted_eq_stuck_iff,
    Fields.absent_eq_stuck_iff, Theme.shape_ne_stuck]

theorem settled_readSections_iff {v : Value} :
    (Shape.listOf Section.shape v).Settled ↔ Value.PlainlyTagged v.items := by
  have hstuck : Shape.listOf Section.shape v = .stuck ↔ ¬ Value.PlainlyTagged v.items := by
    rw [Shape.listOf_eq_stuck_iff, Value.not_plainlyTagged_iff]
    simp only [Section.shape_eq_stuck_iff]
    cases v <;> simp [Value.items]
  rw [Parsed.settled_iff, Ne, hstuck, Classical.not_not]

theorem Draft.settled_shape_iff {v : Value} :
    (Draft.shape v).Settled ↔ Value.PlainlyTagged (v.part "sections").items := by
  have hstuck : Draft.shape v = .stuck ↔ ¬ Value.PlainlyTagged (v.part "sections").items := by
    rw [Draft.shape, Shape.object_eq_stuck_iff, Value.not_plainlyTagged_iff]
    simp only [Parsed.seq_eq_stuck_iff, Parsed.map_eq_stuck_iff,
      Fields.defaulted_listOf_eq_stuck_iff, Section.shape_eq_stuck_iff]
    cases v with
    | map es => simp [Fields.defaulted_eq_stuck_iff, Metadata.shape_ne_stuck]
    | _ => simp [Value.part, Value.items]
  rw [Parsed.settled_iff, Ne, hstuck, Classical.not_not]

end IntakeForms
