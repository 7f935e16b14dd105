import IntakeForms.Proposal.Prompt
import Mathlib.Data.Option.Basic

/-! When the request for a proposal can be written.  It tells of every block with a caption, which
is cut to its length and so has to have one; and what the captions hold has to fit the bounds of the
writer.  The first caption that does not is what the writer stops at. -/

namespace IntakeForms

section

variable {α β γ : Type} {f : α → Option β} {l : List α}

theorem isSome_mapM_iff : (l.mapM f).isSome = true ↔ ∀ a ∈ l, (f a).isSome = true := by
  induction l with
  | nil => simp
  | cons a rest ih =>
    rw [List.forall_mem_cons, ← ih, List.mapM_cons]
    cases ha : f a with
    | none => simp
    | some b => cases hrest : rest.mapM f <;> simp

theorem findSome?_of_mapM {g : β → Option γ} {h : α → Option γ} {bs : List β}
    (hbs : l.mapM f = some bs) (hgh : ∀ a ∈ l, ∀ b, f a = some b → g b = h a) :
    bs.findSome? g = l.findSome? h := by
  induction l generalizing bs with
  | nil =>
    obtain rfl : bs = [] := by simpa using hbs.symm
    rfl
  | cons a rest ih =>
    rw [List.forall_mem_cons] at hgh
    rw [List.mapM_cons] at hbs
    obtain ⟨b, hb, hbs⟩ := Option.bind_eq_some_iff.1 hbs
    obtain ⟨others, hothers, hbs⟩ := Option.bind_eq_some_iff.1 hbs
    obtain rfl := Option.some.inj hbs
    rw [List.findSome?_cons, List.findSome?_cons, hgh.1 b hb, ih hothers hgh.2]

end

namespace Json

variable {style : Style} {b : Bounds} {room : Nat}

theorem itemsObstacle?_eq (items : List Value) :
    itemsObstacle? style b room items = items.findSome? (obstacleIn? style b room) := by
  induction items with
  | nil => rfl
  | cons v rest ih =>
    rw [itemsObstacle?, ih, List.findSome?_cons]
    cases obstacleIn? style b room v <;> rfl

theorem obstacleIn?_list (items : List Value) :
    obstacleIn? style b (room + 1) (.list items) =
      items.findSome? (obstacleIn? style b room) := by
  rw [obstacleIn?, itemsObstacle?_eq]

theorem obstacleIn?_object (fields : List (String × Value)) :
    obstacleIn? style b (room + 1) (.object fields) =
      fields.findSome? fun field => obstacleIn? style b room field.2 := by
  rw [Value.object, obstacleIn?]
  induction fields with
  | nil => rfl
  | cons field rest ih =>
    rw [List.map_cons, entriesObstacle?, keyObstacle?_text, Option.none_or, ih,
      List.findSome?_cons]
    cases obstacleIn? style b room field.2 <;> rfl

@[simp] theorem obstacleIn?_text (s : String) : obstacleIn? style b room (.text s) = none := by
  rw [obstacleIn?] <;> simp

@[simp] theorem obstacleIn?_texts (items : List String) :
    obstacleIn? style b (room + 1) (.texts items) = none := by
  rw [Value.texts, obstacleIn?_list]
  simp

end Json

namespace Prompt

open Json

/-- The caption of the block has a length: it is empty, a text or a list. -/
def Measured (block : Block) : Prop :=
  (captionOf block).truthy = false ∨ (∃ s, captionOf block = .text s) ∨
    ∃ items, captionOf block = .list items

/-- What stands in the way of the caption of a block as far as it is told of.  A list as a caption
is the fifth level of the request. -/
def captionObstacle? (b : Bounds) (block : Block) : Option Unwritten :=
  match captionOf block with
  | .list items => itemsObstacle? .page b (b.depth - 5) (items.take maxCaption)
  | _ => none

/-- The block can be told of. -/
structure Legible (b : Bounds) (block : Block) : Prop where
  measured : Measured block
  fits : captionObstacle? b block = none

theorem caption_of_known {block : Block} (h : ∀ i k extras, block ≠ .unknown i k extras) :
    (captionOf block).truthy = false ∨ ∃ s, captionOf block = .text s := by
  cases block with
  | unknown i k extras => exact absurd rfl (h i k extras)
  | bookCall a booking =>
    have hcaption : captionOf (.bookCall a booking) =
        if a.label.isEmpty then .optText booking.text else .text a.label := rfl
    rw [hcaption]
    split
    · cases booking.text with
      | none => exact .inl rfl
      | some s => exact .inr ⟨s, rfl⟩
    · exact .inr ⟨_, rfl⟩
  | divider => exact .inl rfl
  | image => exact .inl rfl
  | video => exact .inl rfl
  | _ => exact .inr ⟨_, rfl⟩

theorem captionObstacle?_of_empty {b : Bounds} {block : Block}
    (h : (captionOf block).truthy = false) : captionObstacle? b block = none := by
  unfold captionObstacle?
  split
  · next items hitems =>
    rw [hitems, Value.truthy, Bool.not_eq_false', List.isEmpty_iff] at h
    rw [h]
    rfl
  · rfl

theorem legible_of_known {b : Bounds} {block : Block}
    (h : ∀ i k extras, block ≠ .unknown i k extras) : Legible b block := by
  rcases caption_of_known h with hempty | ⟨s, hs⟩
  · exact ⟨.inl hempty, captionObstacle?_of_empty hempty⟩
  · refine ⟨.inr (.inl ⟨s, hs⟩), ?_⟩
    rw [captionObstacle?, hs]

theorem isSome_clipped?_iff {v : Value} :
    (clipped? v).isSome = true ↔ (∃ s, v = .text s) ∨ ∃ items, v = .list items := by
  cases v <;> simp [clipped?]

theorem isSome_caption?_iff {block : Block} : (caption? block).isSome = true ↔ Measured block := by
  unfold caption? Measured
  cases htruthy : (captionOf block).truthy with
  | false => simp [htruthy]
  | true => simp [htruthy, isSome_clipped?_iff]

theorem isSome_blockSummary?_iff {block : Block} :
    (blockSummary? block).isSome = true ↔ Measured block := by
  have hcaption : ((caption? block).map fun v => [("label", v)]).isSome = true ↔ Measured block :=
    by rw [Option.isSome_map, isSome_caption?_iff]
  rw [blockSummary?, Option.isSome_map]
  cases block with
  | question | imageChoice =>
    exact iff_of_true rfl (legible_of_known (b := ⟨0, 0⟩) (by simp)).measured
  | _ => exact hcaption

theorem isSome_summary?_iff {sections : List Section} :
    (summary? sections).isSome = true ↔ ∀ s ∈ sections, ∀ block ∈ s.blocks, Measured block := by
  have hsection (s : Section) :
      (sectionSummary? s).isSome = true ↔ ∀ block ∈ s.blocks, Measured block := by
    rw [sectionSummary?, Option.isSome_map, isSome_mapM_iff]
    exact forall_congr' fun block => imp_congr_right fun _ => isSome_blockSummary?_iff
  rw [summary?, Option.isSome_map, isSome_mapM_iff]
  exact forall_congr' fun s => imp_congr_right fun _ => hsection s

section

variable {digits room : Nat}

theorem obstacle_caption? {block : Block} {v : Value} (h : caption? block = some v) :
    obstacleIn? .page ⟨digits, room + 6⟩ (room + 2) v =
      captionObstacle? ⟨digits, room + 6⟩ block := by
  unfold caption? at h
  dsimp only at h
  split at h
  · unfold clipped? at h
    split at h
    · next s hs =>
      obtain rfl := Option.some.inj h
      rw [captionObstacle?, hs, obstacleIn?_text]
    · next items hitems =>
      obtain rfl := Option.some.inj h
      rw [captionObstacle?, hitems, obstacleIn?]
      rfl
    · cases h
  · next hempty =>
    obtain rfl := Option.some.inj h
    rw [obstacleIn?_text, captionObstacle?_of_empty (by simpa using hempty)]

theorem obstacle_details? {block : Block} {fields : List (String × Value)}
    (h : details? block = some fields) :
    fields.findSome? (fun field => obstacleIn? .page ⟨digits, room + 6⟩ (room + 2) field.2) =
      captionObstacle? ⟨digits, room + 6⟩ block := by
  have hcaption : ∀ block : Block,
      ((caption? block).map fun v => [("label", v)]) = some fields →
      fields.findSome? (fun field => obstacleIn? .page ⟨digits, room + 6⟩ (room + 2) field.2) =
        captionObstacle? ⟨digits, room + 6⟩ block := by
    intro block h
    obtain ⟨v, hv, rfl⟩ := Option.map_eq_some_iff.1 h
    rw [List.findSome?_singleton, obstacle_caption? hv]
  cases block with
  | question a input options =>
    rw [(legible_of_known (by simp)).fits]
    obtain rfl := Option.some.inj h
    cases (Block.question a input options).choices? <;> simp
  | imageChoice a many options =>
    have hoption (o : ImageOption) :
        obstacleIn? .page ⟨digits, room + 6⟩ (room + 1) (optionSummary o) = none := by
      rw [optionSummary, obstacleIn?_object]
      simp
    rw [(legible_of_known (by simp)).fits]
    obtain rfl := Option.some.inj h
    simp [obstacleIn?_list, hoption]
  | _ => exact hcaption _ h

theorem obstacle_blockSummary? {block : Block} {v : Value} (h : blockSummary? block = some v) :
    obstacleIn? .page ⟨digits, room + 6⟩ (room + 3) v =
      captionObstacle? ⟨digits, room + 6⟩ block := by
  obtain ⟨fields, hfields, rfl⟩ := Option.map_eq_some_iff.1 h
  rw [obstacleIn?_object, List.findSome?_append, obstacle_details? hfields]
  simp

theorem obstacle_sectionSummary? {s : Section} {v : Value} (h : sectionSummary? s = some v) :
    obstacleIn? .page ⟨digits, room + 6⟩ (room + 5) v =
      s.blocks.findSome? (captionObstacle? ⟨digits, room + 6⟩) := by
  obtain ⟨blocks, hblocks, rfl⟩ := Option.map_eq_some_iff.1 h
  rw [obstacleIn?_object, ← findSome?_of_mapM hblocks fun block _ v => obstacle_blockSummary?]
  simp only [List.findSome?_cons, List.findSome?_nil, obstacleIn?_text, obstacleIn?_list]
  cases blocks.findSome? (obstacleIn? .page ⟨digits, room + 6⟩ (room + 3)) <;> rfl

end

/-- The first thing in the captions of the sections that the writer has no room for. -/
def firstObstacle? (b : Bounds) (sections : List Section) : Option Unwritten :=
  sections.findSome? fun s => s.blocks.findSome? (captionObstacle? b)

theorem obstacle_summary? {b : Bounds} (hroom : 6 ≤ b.depth) {sections : List Section} {v : Value}
    (h : summary? sections = some v) : obstacle? .page b v = firstObstacle? b sections := by
  obtain ⟨digits, depth⟩ := b
  obtain ⟨room, rfl⟩ : ∃ room, depth = room + 6 := ⟨depth - 6, by dsimp at hroom; omega⟩
  obtain ⟨items, hitems, rfl⟩ := Option.map_eq_some_iff.1 h
  rw [obstacle?, obstacleIn?_list, firstObstacle?,
    ← findSome?_of_mapM hitems fun s _ v => obstacle_sectionSummary?]

theorem build?_cases (b : Bounds) (hroom : 6 ≤ b.depth) (sections : List Section)
    (intent : Option String) :
    (¬ (∀ s ∈ sections, ∀ block ∈ s.blocks, Measured block) ∧
      build? b sections intent = .error .captionLength) ∨
    (∀ s ∈ sections, ∀ block ∈ s.blocks, Measured block) ∧
      ((∃ u, firstObstacle? b sections = some u ∧
          build? b sections intent = .error (.unwritten u)) ∨
        firstObstacle? b sections = none ∧ ∃ text, build? b sections intent = .ok text) := by
  rw [← isSome_summary?_iff]
  cases hsummary : summary? sections with
  | none => exact .inl ⟨by simp, by rw [build?, data?, hsummary]; rfl⟩
  | some v =>
    refine .inr ⟨rfl, ?_⟩
    have hobstacle := obstacle_summary? hroom hsummary
    cases hfirst : firstObstacle? b sections with
    | some u =>
      refine .inl ⟨u, rfl, ?_⟩
      rw [build?, data?, hsummary]
      simp only [text?, hobstacle, hfirst]
      rfl
    | none =>
      refine .inr ⟨rfl, ?_⟩
      rw [build?, data?, hsummary]
      simp only [text?, hobstacle, hfirst]
      exact ⟨_, rfl⟩

theorem firstObstacle?_eq_none_iff {b : Bounds} {sections : List Section} :
    firstObstacle? b sections = none ↔
      ∀ s ∈ sections, ∀ block ∈ s.blocks, captionObstacle? b block = none := by
  simp [firstObstacle?, List.findSome?_eq_none_iff]

theorem build?_eq_ok_iff (b : Bounds) (hroom : 6 ≤ b.depth) (sections : List Section)
    (intent : Option String) :
    (∃ text, build? b sections intent = .ok text) ↔
      ∀ s ∈ sections, ∀ block ∈ s.blocks, Legible b block := by
  have hlegible : (∀ s ∈ sections, ∀ block ∈ s.blocks, Legible b block) ↔
      (∀ s ∈ sections, ∀ block ∈ s.blocks, Measured block) ∧ firstObstacle? b sections = none := by
    rw [firstObstacle?_eq_none_iff]
    exact ⟨fun h => ⟨fun s hs block hb => (h s hs block hb).measured,
      fun s hs block hb => (h s hs block hb).fits⟩,
      fun h s hs block hb => ⟨h.1 s hs block hb, h.2 s hs block hb⟩⟩
  rw [hlegible]
  rcases build?_cases b hroom sections intent with ⟨hnot, hbuild⟩ | ⟨hall, hrest⟩
  · exact iff_of_false (by simp [hbuild]) fun h => hnot h.1
  · rcases hrest with ⟨u, hfirst, hbuild⟩ | ⟨hfirst, hbuild⟩
    · exact iff_of_false (by simp [hbuild]) (by simp [hfirst])
    · exact iff_of_true hbuild ⟨hall, hfirst⟩

/-- A list in a list in a caption is the seventh level. -/
example : build? ⟨4300, 6⟩ [⟨"start", "", none,
    [.unknown "stars" "rating" [("label", .list [.list [.list []]])]], []⟩] none =
      .error (.unwritten .tooDeep) := rfl

end Prompt

end IntakeForms
