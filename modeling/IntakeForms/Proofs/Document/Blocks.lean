import IntakeForms.Proofs.Document.Depth
import IntakeForms.Proofs.Document.Fields

/-! Blocks as documents.  A written block is read as a block of the same kind with the same
fields; only the further fields of a block of unknown kind may come back in another form, if
they hold what documents do not.  A block that is read has its identifier and its tag from the
document, and a block of unknown kind all further fields of it. -/

namespace IntakeForms

attribute [local simp] Shape.object Fields.required Fields.absent Fields.defaulted Fields.located
    Value.object Value.field? Entries.get? Name.word Shape.choice_text

theorem ImageOption.shape_write (o : ImageOption) : ImageOption.shape o.write = .ok o := by
  simp [ImageOption.shape, ImageOption.write]

theorem ImageItem.shape_write (i : ImageItem) : ImageItem.shape i.write = .ok i := by
  simp [ImageItem.shape, ImageItem.write]

namespace Block

/-- Not a block of unknown kind under the tag of a known one, or with a second identifier or tag. -/
def Genuine (b : Block) : Prop :=
  (∀ i k extras, b = .unknown i k extras → readers.lookup k = none) ∧
    ∀ e ∈ b.kept, e.1 ≠ "id" ∧ e.1 ≠ "type"

def plain : Block → Block
  | .unknown i k extras => .unknown i k (Value.plainFields extras)
  | b => b

theorem plain_of_kept {b : Block} (h : ∀ e ∈ b.kept, e.2.plain = e.2) : b.plain = b := by
  cases b with
  | unknown i k extras =>
    have : Value.plainFields extras = extras := by
      rw [Value.plainFields, List.map_congr_left (g := fun e => e) fun e he => ?_, List.map_id']
      exact Prod.ext rfl (h e he)
    rw [plain, this]
  | _ => rfl

theorem Genuine.plain {b : Block} (h : b.Genuine) : b.plain.Genuine := by
  cases b with
  | unknown i k extras =>
    refine ⟨fun j l fields heq => ?_, fun e he => ?_⟩
    · cases heq
      exact h.1 i k extras rfl
    · obtain ⟨f, hf, rfl⟩ := List.mem_map.1 he
      exact h.2 f hf
  | _ => exact h

theorem extras_object {fields : List (String × Value)}
    (h : ∀ e ∈ fields, e.1 ≠ "id" ∧ e.1 ≠ "type") :
    extras (fields.map fun e => (.text e.1, e.2)) = .ok fields := by
  induction fields with
  | nil => rfl
  | cons e rest ih =>
    rw [List.forall_mem_cons] at h
    simp [extras, h.1, ih h.2]

attribute [local simp] shape write tagged kind readTagged readers plain
attribute [local simp] List.lookup_cons Ask.read Ask.write

theorem shape_write_unknown {i k : String} {extras : List (String × Value)}
    (h : (Block.unknown i k extras).Genuine) :
    shape (Block.unknown i k extras).write = .ok (Block.unknown i k extras).plain := by
  have hkind := h.1 i k extras rfl
  have hextras : Block.extras ((Value.plainFields extras).map fun e => (.text e.1, e.2)) =
      .ok (Value.plainFields extras) := by
    refine extras_object fun e he => ?_
    obtain ⟨f, hf, rfl⟩ := List.mem_map.1 he
    exact h.2 f hf
  simp [- readers, hkind, readUnknown, Block.extras, hextras]

theorem shape_write {b : Block} (h : b.Genuine) : shape b.write = .ok b.plain := by
  have hoptions (o : Option (List String)) :
      Shape.nullable (Shape.listOf Shape.text) (Value.optional Value.texts o) = .ok o :=
    Shape.nullable_optional fun l => ⟨by simp [Value.texts], Shape.listOf_texts l⟩
  have hchoices (l : List ImageOption) :=
    Shape.listOf_map_self (l := l) fun o _ => o.shape_write
  have hitems (l : List ImageItem) := Shape.listOf_map_self (l := l) fun i _ => i.shape_write
  have hmax (o : Option Int) : Shape.nullable Shape.whole (Value.optional Value.int o) = .ok o :=
    Shape.nullable_optional fun n => ⟨by simp, rfl⟩
  have htab (o : Option Bool) : Shape.nullable Shape.flag (Value.optional Value.bool o) = .ok o :=
    Shape.nullable_optional fun b => ⟨by simp, rfl⟩
  cases b with
  | context => simp [readContext]
  | heading i t level => simp [readHeading, level.lookup_name]
  | divider i style => simp [readDivider, style.lookup_name]
  | image => simp [readImage]
  | video => simp [readVideo]
  | quote => simp [readQuote]
  | question a input options => simp [readQuestion, input.lookup_name, hoptions]
  | imageChoice => simp [readImageChoice, hchoices]
  | links => simp [readLinks, hmax]
  | moodboard => simp [readMoodboard, hitems]
  | sorting => simp [readSorting, hitems]
  | bookCall => simp [readBookCall, Booking.read, Booking.write, htab]
  | unknown => exact shape_write_unknown h

theorem field?_of_required {es : Fields} {name s : String}
    (h : es.required (.word name) Shape.text = .ok s) : Value.field? name es = some (.text s) := by
  unfold Fields.required at h
  split at h
  · next k v hloc =>
    have htext := Parsed.under_eq_ok h
    have hfield : Value.field? name es = some v := by
      cases hcamel : Value.field? name es <;> simp_all [Fields.located, Name.word]
    cases v <;> cases htext
    exact hfield
  · cases h

theorem field?_of_ask {es : Fields} {a : Ask} (h : Ask.read es = .ok a) :
    Value.field? "id" es = some (.text a.id) := by
  refine Parsed.Gives.seq (Q := fun a => Value.field? "id" es = some (.text a.id))
    (.seq (.seq (.map fun i hi _ _ _ _ _ _ => ?_))) a h
  exact field?_of_required hi

theorem gives_of_mem_readers {tag : String} {read : Fields → Parsed Block}
    (h : (tag, read) ∈ readers) (es : Fields) :
    (read es).Gives fun b =>
      b.kind = tag ∧ Value.field? "id" es = some (.text b.id) ∧
        ∀ i k extras, b ≠ .unknown i k extras := by
  simp only [readers, List.mem_cons, Prod.mk.injEq, List.not_mem_nil, or_false] at h
  rcases h with h | h | h | h | h | h | h | h | h | h | h | h <;> obtain ⟨rfl, rfl⟩ := h
  · exact .seq (.map fun _ hi _ _ => ⟨rfl, field?_of_required hi, nofun⟩)
  · exact .seq (.seq (.map fun _ hi _ _ _ _ => ⟨rfl, field?_of_required hi, nofun⟩))
  · exact .seq (.map fun _ hi _ _ => ⟨rfl, field?_of_required hi, nofun⟩)
  · exact .seq (.seq (.seq (.map fun _ hi _ _ _ _ _ _ => ⟨rfl, field?_of_required hi, nofun⟩)))
  · exact .seq (.seq (.map fun _ hi _ _ _ _ => ⟨rfl, field?_of_required hi, nofun⟩))
  · exact .seq (.seq (.map fun _ hi _ _ _ _ => ⟨rfl, field?_of_required hi, nofun⟩))
  · exact .seq (.seq (.map fun _ ha _ _ _ _ => ⟨rfl, field?_of_ask ha, nofun⟩))
  · exact .seq (.seq (.map fun _ ha _ _ _ _ => ⟨rfl, field?_of_ask ha, nofun⟩))
  all_goals exact .seq (.map fun _ ha _ _ => ⟨rfl, field?_of_ask ha, nofun⟩)

theorem eq_of_extras {es : Fields} {fields : List (String × Value)}
    (h : Block.extras es = .ok fields) :
    fields = (Value.textEntries es).filter fun e => e.1 ≠ "id" ∧ e.1 ≠ "type" := by
  induction es generalizing fields with
  | nil =>
    cases h
    rfl
  | cons e rest ih =>
    obtain ⟨k, v⟩ := e
    cases k with
    | text k =>
      simp only [Block.extras] at h
      split_ifs at h with hk
      · rw [ih h]
        rcases hk with rfl | rfl <;> simp [Value.textEntries]
      · refine Parsed.Gives.map (Q := fun fields => fields = _) (fun tail htail => ?_) fields h
        rw [not_or] at hk
        simp [Value.textEntries, hk, ih htail]
    | _ =>
      obtain ⟨g, x, hg, -⟩ := Parsed.seq_eq_ok h
      cases hg

theorem gives_readUnknown (es : Fields) : (readUnknown es).Gives fun b =>
    Value.field? "type" es = some (.text b.kind) ∧ Value.field? "id" es = some (.text b.id) ∧
      b = .unknown b.id b.kind
        ((Value.textEntries es).filter fun e => e.1 ≠ "id" ∧ e.1 ≠ "type") := by
  refine .seq (.seq (.map fun i hi k hk extras hextras => ?_))
  exact ⟨field?_of_required hk, field?_of_required hi, eq_of_extras hextras ▸ rfl⟩

/-- A block keeps its identifier and its tag as they came, and a block of unknown kind all its
further fields. -/
theorem fields_of_shape {es : Fields} {b : Block} (h : shape (.map es) = .ok b) :
    Value.field? "type" es = some (.text b.kind) ∧ Value.field? "id" es = some (.text b.id) ∧
      match readers.lookup b.kind with
      | some _ => ∀ i k extras, b ≠ .unknown i k extras
      | none => b = .unknown b.id b.kind
          ((Value.textEntries es).filter fun e => e.1 ≠ "id" ∧ e.1 ≠ "type") := by
  have hunknown := (gives_readUnknown es).under (.key "unknown") b
  cases htype : Value.field? "type" es with
  | none =>
    rw [shape, htype] at h
    have := (hunknown h).1
    rw [htype] at this
    cases this
  | some v =>
    cases v with
    | text tag =>
      rw [shape, htype] at h
      simp only [readTagged] at h
      cases hread : readers.lookup tag with
      | some read =>
        rw [hread] at h
        have hmem : (tag, read) ∈ readers := by
          obtain ⟨before, after, heq, -⟩ := List.lookup_eq_some_iff.1 hread
          rw [heq]
          simp
        obtain ⟨rfl, hid, hkept⟩ := gives_of_mem_readers hmem es b (Parsed.under_eq_ok h)
        rw [hread]
        exact ⟨rfl, hid, hkept⟩
      | none =>
        rw [hread] at h
        obtain ⟨hkind, hid, hb⟩ := hunknown h
        rw [htype] at hkind
        cases hkind
        rw [hread]
        exact ⟨rfl, hid, hb⟩
    | list => rw [shape, htype] at h; cases h
    | map => rw [shape, htype] at h; cases h
    | _ =>
      rw [shape, htype] at h
      have := (hunknown h).1
      rw [htype] at this
      cases this

theorem kept_of_known {b : Block} (h : ∀ i k extras, b ≠ .unknown i k extras) : b.kept = [] := by
  cases b with
  | unknown i k extras => exact absurd rfl (h i k extras)
  | _ => rfl

theorem genuine_of_shape {v : Value} {b : Block} (h : shape v = .ok b) : b.Genuine := by
  cases v with
  | map es =>
    obtain ⟨-, -, hfields⟩ := fields_of_shape h
    split at hfields
    · exact ⟨fun i k extras hb => absurd hb (hfields i k extras), by simp [kept_of_known hfields]⟩
    · next hread =>
      rw [hfields]
      refine ⟨fun i k extras hb => ?_, fun e he => ?_⟩
      · cases hb
        exact hread
      · simpa using (List.mem_filter.1 he).2
  | _ => cases h

theorem kept_of_shape {v : Value} {b : Block} (hv : v.isDocument = true) (h : shape v = .ok b) :
    ∀ e ∈ b.kept, e.2.isDocument = true := by
  cases v with
  | map es =>
    obtain ⟨-, -, hfields⟩ := fields_of_shape h
    split at hfields
    · simp [kept_of_known hfields]
    · intro e he
      rw [hfields] at he
      obtain ⟨⟨k, u⟩, hmem, heq⟩ := List.mem_filterMap.1 (List.mem_filter.1 he).1
      cases k <;> cases heq
      exact Value.isDocument_of_mem_entries hv hmem
  | _ => cases h

end Block

end IntakeForms
