import IntakeForms.Form.Document
import IntakeForms.Proofs.Document.Blocks
import IntakeForms.Proofs.Time.Reading
import IntakeForms.Proposal
import IntakeForms.Submission.Document

/-! Drafts, snapshots, records, proposals and trails as documents.  What was read from a
document of finite numbers is written again and read back as the same, at whatever moment,
unless a further field of one of its blocks has more levels than there is room for; then it is
not written at all. -/

namespace IntakeForms

attribute [local simp] Shape.object Fields.required Fields.absent Fields.defaulted Fields.located
    Value.object Value.field? Entries.get? Name.word

theorem Rule.shape_write (r : Rule) : Rule.shape r.write = .ok r := by
  simp [Rule.shape, Rule.write, Shape.choice_text r.operator.lookup_name]

theorem Background.shape_write (b : Background) : Background.shape b.write = .ok b := by
  have hcolors (o : Option (List String)) :
      Shape.nullable (Shape.listOf Shape.text) (Value.optional Value.texts o) = .ok o :=
    Shape.nullable_optional fun l => ⟨by simp [Value.texts], Shape.listOf_texts l⟩
  have hreal (o : Option Binary64) :
      Shape.nullable Shape.real (Value.optional Value.real o) = .ok o :=
    Shape.nullable_optional fun x => ⟨by simp, Shape.real_real x⟩
  simp [Background.shape, Background.write, Shape.choice_text b.kind.lookup_name, hcolors, hreal]

theorem Theme.shape_write (t : Theme) : Theme.shape t.write = .ok t := by
  have hbackground : Shape.nullable Background.shape
      (Value.optional Background.write t.background) = .ok t.background :=
    Shape.nullable_optional fun b => ⟨by simp [Background.write], b.shape_write⟩
  simp [Theme.shape, Theme.write, hbackground]

theorem Metadata.shape_write (m : Metadata) : Metadata.shape m.write = .ok m := by
  have htheme : Shape.nullable Theme.shape (Value.optional Theme.write m.theme) = .ok m.theme :=
    Shape.nullable_optional fun t => ⟨by simp [Theme.write], t.shape_write⟩
  have hcolor : Shape.nullable (Shape.choice .notListed ColorMode.table)
      (Value.optional (fun c => .text c.name) m.colorMode) = .ok m.colorMode :=
    Shape.nullable_optional fun c => ⟨by simp, Shape.choice_text c.lookup_name⟩
  simp [Metadata.shape, Metadata.write, htheme, hcolor, Shape.choice_text m.mode.lookup_name]

namespace Section

def Genuine (s : Section) : Prop := ∀ b ∈ s.blocks, b.Genuine

def plain (s : Section) : Section := { s with blocks := s.blocks.map Block.plain }

theorem shape_write {s : Section} (h : s.Genuine) : shape s.write = .ok s.plain := by
  have hblocks := Shape.listOf_map fun b hb => Block.shape_write (h b hb)
  have hrules : rulesShape (.list (s.rules.map Rule.write)) = .ok s.rules :=
    Shape.listOf_map_self fun r _ => r.shape_write
  simp [shape, write, hblocks, hrules, plain]

end Section

/-- As sections are read from documents. -/
structure Documented (sections : List Section) : Prop where
  genuine : ∀ s ∈ sections, s.Genuine
  kept : ∀ e ∈ keptIn sections, e.2.isDocument = true

theorem plain_of_keptIn {sections : List Section} (h : ∀ e ∈ keptIn sections, e.2.plain = e.2) :
    sections.map Section.plain = sections := by
  refine (List.map_congr_left fun s hs => ?_).trans (List.map_id' sections)
  have hblocks : s.blocks.map Block.plain = s.blocks := by
    refine (List.map_congr_left fun b hb => ?_).trans (List.map_id' s.blocks)
    exact Block.plain_of_kept fun e he => h e (mem_keptIn hs hb he)
  rw [Section.plain, hblocks]

theorem sectionsObstacle?_plain {room : Nat} {sections : List Section}
    (h : ∀ e ∈ keptIn sections, e.2.isDocument = true) :
    sectionsObstacle? room (sections.map Section.plain) = sectionsObstacle? room sections := by
  have hblock (b : Block) : b.plain.kept = Value.plainFields b.kept := by cases b <;> rfl
  have hsection (s : Section) : s.plain.blocks.flatMap Block.kept =
      Value.plainFields (s.blocks.flatMap Block.kept) := by
    simp [Section.plain, Value.plainFields, List.flatMap_map, List.map_flatMap, hblock]
  have hkept : keptIn (sections.map Section.plain) = Value.plainFields (keptIn sections) := by
    simp only [keptIn, List.flatMap_map, hsection]
    rw [Value.plainFields, List.map_flatMap]
    rfl
  rw [sectionsObstacle?_eq, sectionsObstacle?_eq, hkept, Value.fieldsObstacle?_plain h]

theorem readSections_write {sections : List Section} (h : ∀ s ∈ sections, s.Genuine) :
    Shape.listOf Section.shape (writeSections sections) = .ok (sections.map Section.plain) :=
  Shape.listOf_map fun s hs => Section.shape_write (h s hs)

theorem readSections_documented : (Shape.listOf Section.shape).Yields Documented := by
  have hblock : Block.shape.Yields fun b => b.Genuine ∧ ∀ e ∈ b.kept, e.2.isDocument = true :=
    fun _ hv _ h => ⟨Block.genuine_of_shape h, Block.kept_of_shape hv h⟩
  have hsection : Section.shape.Yields fun s =>
      ∀ b ∈ s.blocks, b.Genuine ∧ ∀ e ∈ b.kept, e.2.isDocument = true :=
    .object fun _ hes => .seq (.seq (.seq (.seq (.map fun _ _ _ _ _ _ blocks hblocks _ _ =>
      Fields.defaulted_gives hblock.listOf hes _ (by simp) blocks hblocks))))
  intro v hv sections h
  have hsections := hsection.listOf v hv sections h
  refine ⟨fun s hs b hb => (hsections s hs b hb).1, fun e he => ?_⟩
  obtain ⟨s, hs, he⟩ := List.mem_flatMap.1 he
  obtain ⟨b, hb, he⟩ := List.mem_flatMap.1 he
  exact (hsections s hs b hb).2 e he

namespace Draft

def Genuine (d : Draft) : Prop := ∀ s ∈ d.sections, s.Genuine

def plain (d : Draft) : Draft := { d with sections := d.sections.map Section.plain }

theorem Genuine.plain {d : Draft} (h : d.Genuine) : d.plain.Genuine := by
  intro s hs b hb
  obtain ⟨s', hs', rfl⟩ := List.mem_map.1 hs
  obtain ⟨b', hb', rfl⟩ := List.mem_map.1 hb
  exact (h s' hs' b' hb').plain

theorem shape_write {d : Draft} (h : d.Genuine) : shape d.write = .ok d.plain := by
  simp [shape, write, d.metadata.shape_write, readSections_write h, plain]

theorem shape_documented : shape.Yields fun d => Documented d.sections :=
  .object fun _ hes => .seq (.map fun _ _ sections hsections =>
    Fields.defaulted_gives readSections_documented hes _ ⟨by simp, by simp [keptIn]⟩ sections
      hsections)

end Draft

namespace Snapshot

structure Genuine (s : Snapshot) : Prop where
  sections : ∀ sec ∈ s.sections, sec.Genuine
  publishedAt : s.publishedAt.Valid

def plain (s : Snapshot) : Snapshot := { s with sections := s.sections.map Section.plain }

theorem shape_write {s : Snapshot} (h : s.Genuine) (now : Timestamp) :
    shape now s.write = .ok s.plain := by
  simp [shape, write, s.metadata.shape_write, readSections_write h.sections, plain,
    Shape.moment_iso h.publishedAt]

theorem publishedAt_of_shape_write {s q : Snapshot} {now : Timestamp} (hs : s.publishedAt.Valid)
    (h : shape now s.write = .ok q) : q.publishedAt = s.publishedAt := by
  have hgives : (shape now s.write).Gives fun q => q.publishedAt = s.publishedAt := by
    rw [shape, write, Value.object, Shape.object]
    refine .seq (.seq (.seq (.map fun _ _ _ _ _ _ moment hmoment => ?_)))
    simpa [Shape.moment_iso hs, eq_comm] using hmoment
  exact hgives q h

theorem shape_documented {now : Timestamp} (hnow : now.Valid) :
    (shape now).Yields fun s => Documented s.sections ∧ s.publishedAt.Valid := by
  have hmoment : Shape.moment.Yields Timestamp.Valid := fun _ hv _ h => Shape.moment_valid hv h
  exact .object fun _ hes => .seq (.seq (.seq (.map fun _ _ _ _ sections hsections at_ hat =>
    ⟨Fields.required_gives readSections_documented hes _ sections hsections,
      Fields.defaulted_gives hmoment hes _ hnow at_ hat⟩)))

end Snapshot

namespace Record

structure Genuine (r : Record) : Prop where
  draft : r.draft.Genuine
  published : ∀ s ∈ r.published, s.Genuine

def plain (r : Record) : Record :=
  { r with draft := r.draft.plain, published := r.published.map Snapshot.plain }

def kept (r : Record) : List (String × Value) :=
  keptIn r.draft.sections ++ r.published.elim [] fun s => keptIn s.sections

theorem shape_write {r : Record} (h : r.Genuine) (hcreated : r.createdAt.Valid)
    (hupdated : r.updatedAt.Valid) (now : Timestamp) : shape now r.write = .ok r.plain := by
  have hpublished : Shape.nullable (Snapshot.shape now)
      (Value.optional Snapshot.write r.published) = .ok (r.published.map Snapshot.plain) := by
    cases hs : r.published with
    | none => rfl
    | some s =>
      rw [Value.optional, Shape.nullable_of_ne_null _ (by simp [Snapshot.write]),
        Snapshot.shape_write (h.published s (by simp [hs]))]
      rfl
  simp [shape, write, Draft.shape_write h.draft, hpublished, plain,
    Shape.moment_iso hcreated, Shape.moment_iso hupdated]

theorem shape_documented {now : Timestamp} (hnow : now.Valid) : (shape now).Yields fun r =>
    (r.Genuine ∧ r.createdAt.Valid ∧ r.updatedAt.Valid) ∧
      ∀ e ∈ r.kept, e.2.isDocument = true := by
  have hmoment : Shape.moment.Yields Timestamp.Valid := fun _ hv _ h => Shape.moment_valid hv h
  refine .object fun _ hes => .seq (.seq (.seq (.seq (.seq (.seq (.seq (.map
    fun _ _ _ _ _ _ _ _ draft hdraft published hpublished created hcreated updated hupdated =>
      ?_)))))))
  have hdraft := Fields.defaulted_gives Draft.shape_documented hes _
    ⟨by simp, by simp [keptIn]⟩ draft hdraft
  have hpublished := Fields.absent_gives (Snapshot.shape_documented hnow) hes _ published hpublished
  have hcreated := Fields.defaulted_gives hmoment hes _ hnow created hcreated
  have hupdated := Fields.defaulted_gives hmoment hes _ hnow updated hupdated
  have hgenuine (s : Snapshot) (hs : s ∈ published) : s.Genuine :=
    ⟨(hpublished s hs).1.genuine, (hpublished s hs).2⟩
  refine ⟨⟨⟨hdraft.genuine, hgenuine⟩, hcreated, hupdated⟩, fun e he => ?_⟩
  rcases List.mem_append.1 he with he | he
  · exact hdraft.kept e he
  · cases published with
    | none => cases he
    | some s => exact (hpublished s rfl).1.kept e he

theorem obstacle?_eq (r : Record) :
    r.obstacle? = Value.fieldsObstacle? Value.maxDepthInRecord r.kept := by
  rw [obstacle?, kept, Value.fieldsObstacle?_append, sectionsObstacle?_eq]
  cases r.published with
  | none => rfl
  | some s => rw [Option.bind_some, sectionsObstacle?_eq, Option.elim_some]

theorem plain_of_kept {r : Record} (h : ∀ e ∈ r.kept, e.2.plain = e.2) : r.plain = r := by
  rw [kept, List.forall_mem_append] at h
  have hpublished : r.published.map Snapshot.plain = r.published := by
    cases hs : r.published with
    | none => rfl
    | some s =>
      rw [hs] at h
      rw [Option.map_some, Snapshot.plain, plain_of_keptIn h.2]
  rw [plain, Draft.plain, plain_of_keptIn h.1, hpublished]

end Record

theorem SectionRouting.shape_write (r : SectionRouting) :
    SectionRouting.shape r.write = .ok r := by
  have hrules : Shape.listOf Rule.shape (.list (r.rules.map Rule.write)) = .ok r.rules :=
    Shape.listOf_map_self fun r _ => r.shape_write
  simp [SectionRouting.shape, SectionRouting.write, hrules]

theorem Proposal.shape_write (p : Proposal) : Proposal.shape p.write = .ok p := by
  have hrouting : Shape.listOf SectionRouting.shape (.list (p.routing.map SectionRouting.write)) =
      .ok p.routing := Shape.listOf_map_self fun r _ => r.shape_write
  simp [Proposal.shape, Proposal.write, hrouting]

theorem Trail.shape_write (t : Trail) : Trail.shape t.write = .ok t := by
  simp [Trail.shape, Trail.write]

/-- A kind of document: how it is read at a moment and how it is written, its further fields, and
how many levels these may have. -/
structure Format (α : Type) where
  shape : Timestamp → Shape α
  write? : α → Except Obstacle Value
  kept : α → List (String × Value)
  room : Nat

namespace Format

variable {α : Type}

def draft : Format Draft where
  shape _ := Draft.shape
  write? := Draft.write?
  kept d := keptIn d.sections
  room := Value.maxDepth

def snapshot : Format Snapshot where
  shape := Snapshot.shape
  write? := Snapshot.write?
  kept s := keptIn s.sections
  room := Value.maxDepth

def record : Format Record where
  shape := Record.shape
  write? := Record.write?
  kept := Record.kept
  room := Value.maxDepthInRecord

def proposal : Format Proposal where
  shape _ := Proposal.shape
  write? p := .ok p.write
  kept _ := []
  room := Value.maxDepth

def trail : Format Trail where
  shape _ := Trail.shape
  write? t := .ok t.write
  kept _ := []
  room := Value.maxDepth

/-- Whatever is read from a document of finite numbers is written and read again as the same, if
no further field is too deep, and not written otherwise. -/
def Lossless (f : Format α) : Prop :=
  ∀ (now later : Timestamp) (v : Value) (a : α), now.Valid → v.isDocument = true →
    f.shape now v = .ok a → (∀ e ∈ f.kept a, e.2.isFinite = true) →
      ((∀ e ∈ f.kept a, e.2.levels ≤ f.room) →
        ∃ w, f.write? a = .ok w ∧ f.shape later w = .ok a) ∧
      ((∃ e ∈ f.kept a, f.room < e.2.levels) → f.write? a = .error .tooDeep)

theorem lossless_of {f : Format α} (write : α → Value)
    (hwrite : ∀ a, f.write? a =
      Value.writtenUnless (Value.fieldsObstacle? f.room (f.kept a)) (write a))
    (hshape : ∀ now, now.Valid → (f.shape now).Yields fun a =>
      (∀ e ∈ f.kept a, e.2.isDocument = true) ∧
        ((∀ e ∈ f.kept a, e.2.plain = e.2) → ∀ later, f.shape later (write a) = .ok a)) :
    f.Lossless := by
  intro now later v a hnow hv ha hfinite
  obtain ⟨hdocuments, hread⟩ := hshape now hnow v hv a ha
  rw [hwrite, Value.fieldsObstacle?_of_documents hdocuments]
  constructor
  · intro hlevels
    refine ⟨write a, by rw [if_pos hlevels]; rfl, hread (fun e he => ?_) later⟩
    exact Value.plain_of_document e.2 (hdocuments e he) (hfinite e he)
  · rintro ⟨e, he, hlevels⟩
    rw [if_neg fun h => Nat.not_le.2 hlevels (h e he)]
    rfl

theorem draft_lossless : draft.Lossless := by
  refine lossless_of Draft.write (fun d => ?_) fun now _ v hv d h => ?_
  · change Value.writtenUnless (sectionsObstacle? _ _) _ = _
    rw [sectionsObstacle?_eq]
    rfl
  · have hd := Draft.shape_documented v hv d h
    refine ⟨hd.kept, fun hplain later => ?_⟩
    have hread := Draft.shape_write (d := d) hd.genuine
    rwa [Draft.plain, plain_of_keptIn hplain] at hread

theorem snapshot_lossless : snapshot.Lossless := by
  refine lossless_of Snapshot.write (fun s => ?_) fun now hnow v hv s h => ?_
  · change Value.writtenUnless (sectionsObstacle? _ _) _ = _
    rw [sectionsObstacle?_eq]
    rfl
  · obtain ⟨hs, hat⟩ := Snapshot.shape_documented hnow v hv s h
    refine ⟨hs.kept, fun hplain later => ?_⟩
    have hread := Snapshot.shape_write ⟨hs.genuine, hat⟩ later
    rwa [Snapshot.plain, plain_of_keptIn hplain] at hread

theorem record_lossless : record.Lossless := by
  refine lossless_of Record.write (fun r => ?_) fun now hnow v hv r h => ?_
  · change Value.writtenUnless r.obstacle? _ = _
    rw [Record.obstacle?_eq]
    rfl
  · obtain ⟨⟨hr, hcreated, hupdated⟩, hkept⟩ := Record.shape_documented hnow v hv r h
    refine ⟨hkept, fun hplain later => ?_⟩
    have hread := Record.shape_write hr hcreated hupdated later
    rwa [Record.plain_of_kept hplain] at hread

theorem proposal_lossless : proposal.Lossless :=
  lossless_of Proposal.write (fun _ => rfl) fun _ _ _ _ p _ =>
    ⟨by simp [proposal], fun _ _ => p.shape_write⟩

theorem trail_lossless : trail.Lossless :=
  lossless_of Trail.write (fun _ => rfl) fun _ _ _ _ t _ =>
    ⟨by simp [trail], fun _ _ => t.shape_write⟩

end Format

/-- Stored documents survive being written and read again, and a block has its kind, its
identifier and, if its kind is not known, all its further fields as they came. -/
theorem documents_survive :
    (Format.draft.Lossless ∧ Format.snapshot.Lossless ∧ Format.record.Lossless ∧
      Format.proposal.Lossless ∧ Format.trail.Lossless) ∧
    ∀ (es : Fields) (b : Block), Block.shape (.map es) = .ok b →
      Value.field? "type" es = some (.text b.kind) ∧ Value.field? "id" es = some (.text b.id) ∧
        (Block.readers.lookup b.kind = none → b = .unknown b.id b.kind
          ((Value.textEntries es).filter fun e => e.1 ≠ "id" ∧ e.1 ≠ "type")) := by
  refine ⟨⟨Format.draft_lossless, Format.snapshot_lossless, Format.record_lossless,
    Format.proposal_lossless, Format.trail_lossless⟩, fun es b h => ?_⟩
  obtain ⟨htype, hid, hfields⟩ := Block.fields_of_shape h
  refine ⟨htype, hid, fun hnone => ?_⟩
  rwa [hnone] at hfields

def note (body : Value) : Fields :=
  [(.text "id", .text "aside"), (.text "type", .text "note"), (.text "body", body)]

def noteDraft (body : Value) : Value :=
  .object [("sections",
    .list [.object [("id", .text "start"), ("blocks", .list [.map (note body)])]])]

def noteSections (body : Value) : List Section :=
  [⟨"start", "", none, [.unknown "aside" "note" [("body", body)]], []⟩]

theorem shape_noteDraft (body : Value) :
    Draft.shape (noteDraft body) = .ok ⟨{}, noteSections body⟩ := by
  rfl

theorem documents_survive_note :
    (∃ w, Draft.write? ⟨{}, noteSections (.list [.int 4, .bool true])⟩ = .ok w ∧
      Draft.shape w = .ok ⟨{}, noteSections (.list [.int 4, .bool true])⟩) ∧
    Value.field? "type" (note (.list [.int 4, .bool true])) = some (.text "note") := by
  have hnow : (Timestamp.ofMicros 0).Valid := by
    constructor <;> decide
  constructor
  · refine (documents_survive.1.1 (.ofMicros 0) (.ofMicros 0)
      (noteDraft (.list [.int 4, .bool true])) _ hnow (by decide) (shape_noteDraft _) ?_).1 ?_
    · decide
    · decide
  · exact (documents_survive.2 _ (.unknown "aside" "note" [("body", .list [.int 4, .bool true])])
      rfl).1

def nested : Nat → Value
  | 0 => .list []
  | n + 1 => .list [nested n]

theorem isDocument_nested (n : Nat) : (nested n).isDocument = true := by
  induction n with
  | zero => rfl
  | succ n ih => simp [nested, Value.isDocument, Value.documents, ih]

theorem isFinite_nested (n : Nat) : (nested n).isFinite = true := by
  induction n with
  | zero => rfl
  | succ n ih => simp [nested, Value.isFinite, Value.finiteItems, ih]

theorem levels_nested (n : Nat) : (nested n).levels = n + 1 := by
  induction n with
  | zero => rfl
  | succ n ih => simp [nested, Value.levels, Value.itemsLevels, ih]

theorem isDocument_noteDraft {body : Value} (h : body.isDocument = true) :
    (noteDraft body).isDocument = true := by
  simp [noteDraft, note, Value.isDocument, Value.documents, Value.documentEntries, Entries.keys, h]

theorem isFinite_noteDraft {body : Value} (h : body.isFinite = true) :
    (noteDraft body).isFinite = true := by
  simp [noteDraft, note, Value.isFinite, Value.finiteItems, Value.finiteEntries, h]

theorem obstacle?_noteSections {body : Value} (h : body.isDocument = true) {room : Nat}
    (hdeep : room < body.levels) :
    sectionsObstacle? room (noteSections body) = some .tooDeep := by
  have hkept : keptIn (noteSections body) = [("body", body)] := rfl
  rw [sectionsObstacle?_eq, hkept, Value.fieldsObstacle?_of_documents (by simpa using h), if_neg]
  simpa using hdeep

/-- A draft that is read and that nothing is written for. -/
theorem deep_note_unwritten :
    (noteDraft (nested 300)).isDocument = true ∧ (noteDraft (nested 300)).isFinite = true ∧
      Draft.shape (noteDraft (nested 300)) = .ok ⟨{}, noteSections (nested 300)⟩ ∧
      Draft.write? ⟨{}, noteSections (nested 300)⟩ = .error .tooDeep := by
  have hdeep : Value.maxDepth < (nested 300).levels := by
    rw [levels_nested]
    decide
  refine ⟨isDocument_noteDraft (isDocument_nested 300), isFinite_noteDraft (isFinite_nested 300),
    shape_noteDraft (nested 300), ?_⟩
  rw [Draft.write?, obstacle?_noteSections (isDocument_nested 300) hdeep]
  rfl

end IntakeForms
