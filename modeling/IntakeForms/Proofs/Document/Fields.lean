import IntakeForms.Shape.Scalar

/-! Fields of documents, in both directions: what is read where a value was written, and what
holds of whatever is read from a document when it holds of each of its parts. -/

namespace IntakeForms

namespace Parsed

variable {α β : Type}

def Gives (P : α → Prop) (p : Parsed α) : Prop := ∀ a, p = .ok a → P a

namespace Gives

variable {P : α → Prop} {Q : β → Prop} {p : Parsed α}

theorem under (step : Step) (h : p.Gives P) : (p.under step).Gives P :=
  fun a ha => h a (under_eq_ok ha)

theorem map {f : α → β} (h : p.Gives fun a => Q (f a)) : (f <$> p).Gives Q := by
  intro b hb
  cases p with
  | ok a =>
    cases hb
    exact h a rfl
  | problems ps => cases hb
  | stuck => cases hb

theorem seq {f : Parsed (α → β)} (h : f.Gives fun g => ∀ a, p = .ok a → Q (g a)) :
    (f <*> p).Gives Q := by
  intro b hb
  obtain ⟨g, a, hg, ha, rfl⟩ := seq_eq_ok hb
  exact h g hg a ha

end Gives

end Parsed

namespace Shape

variable {α β : Type}

@[simp] theorem text_text (s : String) : text (.text s) = .ok s := rfl

@[simp] theorem flag_bool (b : Bool) : flag (.bool b) = .ok b := rfl

@[simp] theorem whole_int (n : Int) : whole (.int n) = .ok n := rfl

@[simp] theorem real_real (x : Binary64) : real (.real x) = .ok x := rfl

theorem choice_text {fault : Fault} {table : List (String × α)} {s : String} {a : α}
    (h : table.lookup s = some a) : choice fault table (.text s) = .ok a := by
  simp [choice, h]

theorem nullable_of_ne_null (shape : Shape α) {v : Value} (h : v ≠ .null) :
    nullable shape v = some <$> shape v := by
  cases v <;> first | rfl | exact absurd rfl h

theorem nullable_optional {shape : Shape α} {write : α → Value} {o : Option α}
    (h : ∀ a, write a ≠ .null ∧ shape (write a) = .ok a) :
    nullable shape (Value.optional write o) = .ok o := by
  cases o with
  | none => rfl
  | some a => rw [Value.optional, nullable_of_ne_null _ (h a).1, (h a).2]; rfl

@[simp] theorem nullable_optText (o : Option String) : nullable text (Value.optText o) = .ok o :=
  nullable_optional fun _ => ⟨by simp, rfl⟩

theorem itemsFrom_map {shape : Shape α} {write : β → Value} {f : β → α} {l : List β}
    (h : ∀ b ∈ l, shape (write b) = .ok (f b)) (i : Nat) :
    itemsFrom shape i (l.map write) = .ok (l.map f) := by
  induction l generalizing i with
  | nil => rfl
  | cons b rest ih =>
    rw [List.forall_mem_cons] at h
    simp [itemsFrom, h.1, ih h.2]

theorem listOf_map {shape : Shape α} {write : β → Value} {f : β → α} {l : List β}
    (h : ∀ b ∈ l, shape (write b) = .ok (f b)) :
    listOf shape (.list (l.map write)) = .ok (l.map f) :=
  itemsFrom_map h 0

theorem listOf_map_self {shape : Shape α} {write : α → Value} {l : List α}
    (h : ∀ a ∈ l, shape (write a) = .ok a) : listOf shape (.list (l.map write)) = .ok l := by
  have := listOf_map (f := fun a => a) h
  rwa [List.map_id'] at this

@[simp] theorem listOf_texts (l : List String) : listOf text (Value.texts l) = .ok l :=
  listOf_map_self fun _ _ => rfl

end Shape

def Shape.Yields {α : Type} (shape : Shape α) (P : α → Prop) : Prop :=
  ∀ v : Value, v.isDocument = true → (shape v).Gives P

namespace Value

theorem isDocument_of_mem_entries {entries : List (Key × Value)}
    (h : documentEntries entries = true) {e : Key × Value} (he : e ∈ entries) :
    e.2.isDocument = true := by
  induction entries with
  | nil => cases he
  | cons f rest ih =>
    obtain ⟨k, v⟩ := f
    cases k with
    | text k =>
      simp only [documentEntries, Bool.and_eq_true] at h
      rcases List.mem_cons.1 he with rfl | he
      · exact h.1.1
      · exact ih h.2 he
    | _ => simp [documentEntries] at h

end Value

namespace Shape

variable {α : Type} {shape : Shape α} {P : α → Prop}

theorem Yields.object {read : Fields → Parsed α}
    (h : ∀ es, Value.documentEntries es = true → (read es).Gives P) : (object read).Yields P := by
  intro v hv a ha
  cases v with
  | map es => exact h es hv a ha
  | _ => cases ha

theorem Yields.listOf (h : shape.Yields P) : (listOf shape).Yields fun l => ∀ a ∈ l, P a := by
  have hitems : ∀ (items : List Value) (i : Nat), Value.documents items = true →
      (itemsFrom shape i items).Gives fun l => ∀ a ∈ l, P a := by
    intro items
    induction items with
    | nil =>
      rintro i - l hl
      cases hl
      simp
    | cons v rest ih =>
      intro i hd
      simp only [Value.documents, Bool.and_eq_true] at hd
      refine .seq (.map fun a ha l hl => ?_)
      rw [List.forall_mem_cons]
      exact ⟨(h v hd.1).under _ a ha, ih (i + 1) hd.2 l hl⟩
  intro v hv a ha
  cases v with
  | list items => exact hitems items 0 hv a ha
  | _ => cases ha

theorem Yields.nullable (h : shape.Yields P) : (nullable shape).Yields fun o => ∀ a ∈ o, P a := by
  intro v hv o ho
  cases v with
  | null =>
    cases ho
    simp
  | _ =>
    refine Parsed.Gives.map (Q := fun o => ∀ a ∈ o, P a) (f := some) (fun a ha b hb => ?_) o ho
    rw [← Option.some.inj hb]
    exact h _ hv a ha

end Shape

namespace Fields

variable {α : Type} {shape : Shape α} {P : α → Prop} {es : Fields}

theorem isDocument_of_located (hes : Value.documentEntries es = true) {name : Name} {k : String}
    {v : Value} (h : es.located name = some (k, v)) : v.isDocument = true := by
  unfold located at h
  cases hcamel : Value.field? name.camel es with
  | some u =>
    rw [hcamel] at h
    cases h
    exact Value.isDocument_of_mem_entries hes (Entries.mem_of_get? hcamel)
  | none =>
    rw [hcamel] at h
    obtain ⟨u, hu, heq⟩ := Option.map_eq_some_iff.1 h
    cases heq
    exact Value.isDocument_of_mem_entries hes (Entries.mem_of_get? hu)

theorem required_gives (h : shape.Yields P) (hes : Value.documentEntries es = true) (name : Name) :
    (es.required name shape).Gives P := by
  unfold required
  split
  · next hloc => exact .under _ (h _ (isDocument_of_located hes hloc))
  · rintro a ⟨⟩

theorem defaulted_gives (h : shape.Yields P) (hes : Value.documentEntries es = true) (name : Name)
    {default : α} (hdefault : P default) : (es.defaulted name default shape).Gives P := by
  unfold defaulted
  split
  · next hloc => exact .under _ (h _ (isDocument_of_located hes hloc))
  · rintro a ⟨⟩
    exact hdefault

theorem absent_gives (h : shape.Yields P) (hes : Value.documentEntries es = true) (name : Name) :
    (es.absent name shape).Gives fun o => ∀ a ∈ o, P a :=
  defaulted_gives h.nullable hes name (by simp)

end Fields

end IntakeForms
