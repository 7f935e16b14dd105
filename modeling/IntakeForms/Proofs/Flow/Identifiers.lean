import IntakeForms.Proofs.Flow.Findings

/-! What the census says of blocks whose identifier is used in several sections.  As long
as it has no errors, it warns of every block whose identifier an earlier section has and
names the first such section; without errors and warnings all identifiers are distinct. -/

namespace IntakeForms.Flow

def firstWith? (sections : List Section) (id : String) : Option Section :=
  sections.find? fun s => id ∈ s.blocks.map Block.id

def sharedWith (earlier : List Section) (s : Section) : List Issue :=
  s.blocks.filterMap fun b => (firstWith? earlier b.id).map fun t => sharedBlock s b t.id

def sharedAfter (earlier : List Section) : List Section → List Issue
  | [] => []
  | s :: rest => sharedWith earlier s ++ sharedAfter (earlier ++ [s]) rest

theorem firstWith?_eq_none_iff {sections : List Section} {id : String} :
    firstWith? sections id = none ↔ ∀ t ∈ sections, id ∉ t.blocks.map Block.id := by
  simp [firstWith?]

theorem firstWith?_concat (earlier : List Section) (s : Section) (id : String) :
    firstWith? (earlier ++ [s]) id =
      (firstWith? earlier id).or (if id ∈ s.blocks.map Block.id then some s else none) := by
  rw [firstWith?, List.find?_append, List.find?_singleton, firstWith?]
  simp only [decide_eq_true_eq]

theorem key_apart {α : Type} {key : α → String} {front back : List α} {a : α}
    (h : ((front ++ a :: back).map key).Nodup) : key a ∉ front.map key ∧ key a ∉ back.map key := by
  rw [List.map_append, List.map_cons, List.nodup_middle, List.nodup_cons] at h
  simpa only [List.mem_append, not_or] using h.1

def Owned (earlier : List Section) (c : Census) : Prop :=
  ∀ id, Entries.get? id c.owners = (firstWith? earlier id).map Section.id

theorem countBlock_new {s : Section} {c : Census} {b : Block} (hb : b.id ∉ c.blocks)
    (howner : Entries.get? b.id c.owners ≠ some s.id) :
    (countBlock s c b).warnings =
        c.warnings ++ ((Entries.get? b.id c.owners).map (sharedBlock s b)).toList ∧
      ∀ id, Entries.get? id (countBlock s c b).owners =
        (Entries.get? id c.owners).or (if id = b.id then some s.id else none) := by
  rw [countBlock, if_neg hb]
  dsimp only
  cases hget : Entries.get? b.id c.owners with
  | none =>
    refine ⟨by simp, fun id => ?_⟩
    rw [Entries.get?_append]
    simp [Entries.get?, eq_comm]
  | some owner =>
    have hne : owner ≠ s.id := fun heq => howner (heq ▸ hget)
    refine ⟨by simp [hne], fun id => ?_⟩
    by_cases hid : id = b.id
    · simp [hne, hid, hget]
    · simp [hne, hid]

theorem foldl_countBlock_new {s : Section} {bs : List Block} {c : Census}
    (hn : (bs.map Block.id).Nodup) (hnew : ∀ b ∈ bs, b.id ∉ c.blocks)
    (howner : ∀ b ∈ bs, Entries.get? b.id c.owners ≠ some s.id) :
    (bs.foldl (countBlock s) c).warnings = c.warnings ++
        bs.filterMap (fun b => (Entries.get? b.id c.owners).map (sharedBlock s b)) ∧
      ∀ id, Entries.get? id (bs.foldl (countBlock s) c).owners =
        (Entries.get? id c.owners).or (if id ∈ bs.map Block.id then some s.id else none) := by
  induction bs generalizing c with
  | nil => simp
  | cons b rest ih =>
    rw [List.map_cons, List.nodup_cons] at hn
    rw [List.forall_mem_cons] at hnew howner
    have apart : ∀ x ∈ rest, x.id ≠ b.id := fun x hx heq => hn.1 (List.mem_map.2 ⟨x, hx, heq⟩)
    obtain ⟨warned, owners⟩ := countBlock_new hnew.1 howner.1
    have same : ∀ x ∈ rest,
        Entries.get? x.id (countBlock s c b).owners = Entries.get? x.id c.owners := by
      intro x hx
      simp [owners, apart x hx]
    have blocks : ∀ x ∈ rest, x.id ∉ (countBlock s c b).blocks := by
      intro x hx
      simp [(countBlock_fields s c b).2.1, hnew.1, hnew.2 x hx, apart x hx]
    obtain ⟨ihWarned, ihOwners⟩ := ih hn.2 blocks fun x hx => same x hx ▸ howner.2 x hx
    refine ⟨?_, fun id => ?_⟩
    · rw [List.foldl_cons, ihWarned, warned, List.append_assoc, List.filterMap_cons]
      rw [List.filterMap_congr fun x hx => by rw [same x hx]]
      cases Entries.get? b.id c.owners <;> rfl
    · rw [List.foldl_cons, ihOwners, owners, Option.or_assoc]
      congr 1
      by_cases hid : id = b.id <;> simp [hid]

section

variable {c : Census} {s : Section} {earlier : List Section}

theorem Owned.counted_blocks (owned : Owned earlier c) (hblocks : c.blocks = [])
    (hs : s.id ∉ earlier.map Section.id) (hn : (s.blocks.map Block.id).Nodup) :
    (s.blocks.foldl (countBlock s) c).warnings = c.warnings ++ sharedWith earlier s ∧
      Owned (earlier ++ [s]) (s.blocks.foldl (countBlock s) c) := by
  have howner : ∀ b ∈ s.blocks, Entries.get? b.id c.owners ≠ some s.id := by
    intro b _ hget
    rw [owned b.id] at hget
    obtain ⟨t, ht, hid⟩ := Option.map_eq_some_iff.1 hget
    exact hs (List.mem_map.2 ⟨t, List.mem_of_find?_eq_some ht, hid⟩)
  obtain ⟨warned, owners⟩ := foldl_countBlock_new hn (by simp [hblocks]) howner
  refine ⟨warned.trans ?_, fun id => (owners id).trans ?_⟩
  · simp only [sharedWith, owned _, Option.map_map, Function.comp_def]
  · rw [owned id, firstWith?_concat]
    cases firstWith? earlier id with
    | none => split <;> rfl
    | some t => rfl

theorem Owned.counted (owned : Owned earlier c) (hs : s.id ∉ earlier.map Section.id)
    (hn : (s.blocks.map Block.id).Nodup) :
    (countSection c s).warnings = c.warnings ++ sharedWith earlier s ∧
      Owned (earlier ++ [s]) (countSection c s) :=
  Owned.counted_blocks owned rfl hs hn

end

theorem Owned.counted_sections {rest earlier : List Section} {c : Census}
    (owned : Owned earlier c) (hids : ((earlier ++ rest).map Section.id).Nodup)
    (hn : ∀ s ∈ rest, (s.blocks.map Block.id).Nodup) :
    (rest.foldl countSection c).warnings = c.warnings ++ sharedAfter earlier rest := by
  induction rest generalizing earlier c with
  | nil => simp [sharedAfter]
  | cons s rest ih =>
    rw [List.forall_mem_cons] at hn
    obtain ⟨warned, owned⟩ := owned.counted (key_apart hids).1 hn.1
    rw [List.foldl_cons, ih owned (by simpa using hids) hn.2, warned, sharedAfter,
      List.append_assoc]

/-- As long as it has no errors the census warns of just the blocks that share an identifier
with a block of an earlier section. -/
theorem census_warnings {sections : List Section} (h : (census sections).errors = []) :
    (census sections).warnings = sharedAfter [] sections := by
  obtain ⟨hids, hblocks⟩ := (census_errors_eq_nil_iff sections).1 h
  exact Owned.counted_sections (fun id => rfl) hids hblocks

theorem sharedWith_eq_nil_iff {earlier : List Section} {s : Section} :
    sharedWith earlier s = [] ↔
      ∀ t ∈ earlier, (t.blocks.map Block.id).Disjoint (s.blocks.map Block.id) := by
  simp only [sharedWith, List.filterMap_eq_nil_iff, Option.map_eq_none_iff, firstWith?_eq_none_iff]
  constructor
  · intro h t ht id hid hmem
    obtain ⟨b, hb, rfl⟩ := List.mem_map.1 hmem
    exact h b hb t ht hid
  · exact fun h b hb t ht hid => h t ht hid (List.mem_map_of_mem hb)

theorem sharedAfter_eq_nil_iff {earlier rest : List Section} :
    sharedAfter earlier rest = [] ↔
      (∀ t ∈ earlier, ∀ s ∈ rest, (t.blocks.map Block.id).Disjoint (s.blocks.map Block.id)) ∧
        rest.Pairwise fun t s => (t.blocks.map Block.id).Disjoint (s.blocks.map Block.id) := by
  induction rest generalizing earlier with
  | nil => simp [sharedAfter]
  | cons s rest ih =>
    rw [sharedAfter, List.append_eq_nil_iff, ih, sharedWith_eq_nil_iff, List.pairwise_cons]
    simp only [List.forall_mem_append, List.forall_mem_singleton, List.forall_mem_cons]
    constructor
    · rintro ⟨hs, ⟨hrest, after⟩, pairs⟩
      exact ⟨fun t ht => ⟨hs t ht, hrest t ht⟩, after, pairs⟩
    · rintro ⟨h, after, pairs⟩
      exact ⟨fun t ht => (h t ht).1, ⟨fun t ht => (h t ht).2, after⟩, pairs⟩

/-- The census has nothing to say exactly when the identifiers of all sections are distinct, and
so are those of all blocks of all sections together. -/
theorem census_clear_iff (sections : List Section) :
    (census sections).errors = [] ∧ (census sections).warnings = [] ↔
      (sections.map Section.id).Nodup ∧ ((sections.flatMap Section.blocks).map Block.id).Nodup := by
  have blocks : ((sections.flatMap Section.blocks).map Block.id).Nodup ↔
      (∀ s ∈ sections, (s.blocks.map Block.id).Nodup) ∧ sharedAfter [] sections = [] := by
    rw [List.map_flatMap, List.nodup_flatMap, sharedAfter_eq_nil_iff]
    simp
  rw [blocks, ← and_assoc, ← census_errors_eq_nil_iff]
  exact and_congr_right fun h => by rw [census_warnings h]

theorem blockIds_nodup_of_check {policy : Policy} {sections : List Section}
    (valid : (check policy sections).isValid = true)
    (unshared : ∀ i ∈ (check policy sections).warnings, i.code ≠ "shared_block_id") :
    ((sections.flatMap Section.blocks).map Block.id).Nodup := by
  cases sections with
  | nil => simp
  | cons first rest =>
    have errors : (census (first :: rest)).errors = [] := by
      simp only [check, checkFrom, List.isEmpty_iff, List.append_eq_nil_iff] at valid
      exact valid.1.1.1
    have warnings : (census (first :: rest)).warnings = [] := by
      rw [List.eq_nil_iff_forall_not_mem]
      intro i hi
      refine unshared i ?_ (code_census_warnings _ i hi)
      simp only [check, checkFrom, List.mem_append]
      exact .inl (.inl (.inl (.inl (.inl hi))))
    exact ((census_clear_iff _).1 ⟨errors, warnings⟩).2

/-- The codes of what the census reports. -/
def identifierCodes : List String := "shared_block_id" :: censusCodes

def tellsSharing (s : Section) (b : Block) (i : Issue) : Bool :=
  i.code = "shared_block_id" ∧ i.sectionId = some s.id ∧ i.blockId = some b.id

def namesOwner (t s : Section) (b : Block) : Issue where
  severity := .warning
  code := "shared_block_id"
  message := "Block id '" ++ b.id ++ "' is used in sections '" ++ t.id ++ "' and '" ++ s.id ++
    "'; their answers will overwrite each other."
  sectionId := some s.id
  blockId := some b.id

theorem sharedBlock_eq (s : Section) (b : Block) (t : Section) :
    sharedBlock s b t.id = namesOwner t s b := by
  have hsections : "' is used in sections '" = "'" ++ (" is used in sections " ++ "'") := by decide
  have hand : "' and '" = "'" ++ (" and " ++ "'") := by decide
  have hanswers : "'; their answers will overwrite each other." =
      "'" ++ "; their answers will overwrite each other." := by decide
  rw [sharedBlock, warning, namesOwner, hsections, hand, hanswers]
  simp only [quote, String.append_assoc]
  rfl

/-- Every block whose identifier an earlier section has is told of once, by the warning that names
the first such section, and nothing else is told to be shared. -/
structure SharingTold (sections : List Section) (issues : List Issue) : Prop where
  once : ∀ {before s after}, sections = before ++ s :: after → ∀ b ∈ s.blocks,
    issues.filter (tellsSharing s b) =
      ((firstWith? before b.id).map fun t => namesOwner t s b).toList
  only : ∀ i ∈ issues, i.code = "shared_block_id" →
    ∃ before s after, sections = before ++ s :: after ∧
      ∃ b ∈ s.blocks, ∃ t, firstWith? before b.id = some t ∧ i = namesOwner t s b

theorem mem_sharedWith {earlier : List Section} {s : Section} {i : Issue} :
    i ∈ sharedWith earlier s ↔
      ∃ b ∈ s.blocks, ∃ t, firstWith? earlier b.id = some t ∧ sharedBlock s b t.id = i := by
  simp only [sharedWith, List.mem_filterMap, Option.map_eq_some_iff]

theorem sharedAfter_append (earlier front back : List Section) :
    sharedAfter earlier (front ++ back) =
      sharedAfter earlier front ++ sharedAfter (earlier ++ front) back := by
  induction front generalizing earlier with
  | nil => simp [sharedAfter]
  | cons s rest ih => simp [sharedAfter, ih]

theorem mem_sharedAfter {earlier sections : List Section} {i : Issue}
    (h : i ∈ sharedAfter earlier sections) : ∃ before s after, sections = before ++ s :: after ∧
      i ∈ sharedWith (earlier ++ before) s := by
  induction sections generalizing earlier with
  | nil => simp [sharedAfter] at h
  | cons s rest ih =>
    rcases List.mem_append.1 h with h | h
    · exact ⟨[], s, rest, rfl, by simpa using h⟩
    · obtain ⟨before, t, after, rfl, ht⟩ := ih h
      exact ⟨s :: before, t, after, rfl, by simpa using ht⟩

theorem filter_sharedWith {earlier : List Section} {s : Section}
    (hn : (s.blocks.map Block.id).Nodup) {b : Block} (hb : b ∈ s.blocks) :
    (sharedWith earlier s).filter (tellsSharing s b) =
      ((firstWith? earlier b.id).map fun t => sharedBlock s b t.id).toList := by
  obtain ⟨front, back, hblocks⟩ := List.append_of_mem hb
  obtain ⟨hfront, hback⟩ := key_apart (hblocks ▸ hn)
  have silent : ∀ bs : List Block, b.id ∉ bs.map Block.id →
      (bs.filterMap fun x => (firstWith? earlier x.id).map fun t =>
        sharedBlock s x t.id).filter (tellsSharing s b) = [] := by
    intro bs hbs
    refine List.filter_eq_nil_iff.2 fun i hi => ?_
    obtain ⟨x, hx, hi⟩ := List.mem_filterMap.1 hi
    obtain ⟨t, -, rfl⟩ := Option.map_eq_some_iff.1 hi
    have hne : x.id ≠ b.id := fun heq => hbs (heq ▸ List.mem_map_of_mem hx)
    simp [tellsSharing, sharedBlock, warning, hne]
  rw [sharedWith, hblocks, List.filterMap_append, List.filter_append, silent front hfront,
    List.nil_append, List.filterMap_cons]
  cases firstWith? earlier b.id with
  | none => exact silent back hback
  | some t =>
    have told : tellsSharing s b (sharedBlock s b t.id) = true := by
      simp [tellsSharing, sharedBlock, warning]
    simp only [Option.map_some, List.filter_cons_of_pos told, silent back hback]
    rfl

theorem filter_sharedAfter {earlier sections : List Section} {s : Section} {b : Block}
    (hs : s.id ∉ sections.map Section.id) :
    (sharedAfter earlier sections).filter (tellsSharing s b) = [] := by
  refine List.filter_eq_nil_iff.2 fun i hi => ?_
  obtain ⟨before, t, after, rfl, ht⟩ := mem_sharedAfter hi
  obtain ⟨x, -, owner, -, rfl⟩ := mem_sharedWith.1 ht
  have hne : t.id ≠ s.id := fun heq => hs (by simp [heq])
  simp [tellsSharing, sharedBlock, warning, hne]

theorem sharingTold_sharedAfter {sections : List Section} (hids : (sections.map Section.id).Nodup)
    (hblocks : ∀ s ∈ sections, (s.blocks.map Block.id).Nodup) :
    SharingTold sections (sharedAfter [] sections) where
  once := by
    rintro before s after rfl b hb
    obtain ⟨hbefore, hafter⟩ := key_apart hids
    rw [sharedAfter_append, sharedAfter, List.filter_append, List.filter_append,
      filter_sharedAfter hbefore, filter_sharedAfter hafter, List.nil_append, List.append_nil,
      filter_sharedWith (hblocks s (by simp)) hb]
    simp only [sharedBlock_eq, List.nil_append]
  only := by
    intro i hi _
    obtain ⟨before, s, after, hsections, hi⟩ := mem_sharedAfter hi
    obtain ⟨b, hb, t, ht, rfl⟩ := mem_sharedWith.1 hi
    exact ⟨before, s, after, hsections, b, hb, t, by simpa using ht, sharedBlock_eq s b t⟩

/-- The census reports none of its codes exactly when all identifiers are distinct; as long as
those of the sections are, and those of the blocks of each section, it tells once of every block
that shares its identifier with a block of an earlier section. -/
theorem census_tells (sections : List Section) :
    ((∀ i ∈ (census sections).errors ++ (census sections).warnings, i.code ∉ identifierCodes) ↔
      (sections.map Section.id).Nodup ∧
        ((sections.flatMap Section.blocks).map Block.id).Nodup) ∧
    ((sections.map Section.id).Nodup → (∀ s ∈ sections, (s.blocks.map Block.id).Nodup) →
      SharingTold sections ((census sections).errors ++ (census sections).warnings)) := by
  constructor
  · rw [← census_clear_iff, ← List.append_eq_nil_iff, List.eq_nil_iff_forall_not_mem]
    refine forall_congr' fun i => imp_congr_right fun hi => ?_
    have code : i.code ∈ identifierCodes := by
      rcases List.mem_append.1 hi with hi | hi
      · exact List.mem_cons_of_mem _ (code_census sections i hi)
      · exact List.mem_cons.2 (.inl (code_census_warnings sections i hi))
    exact iff_of_false (fun h => h code) id
  · intro hids hblocks
    have errors : (census sections).errors = [] :=
      (census_errors_eq_nil_iff sections).2 ⟨hids, hblocks⟩
    rw [census_warnings errors, errors]
    exact sharingTold_sharedAfter hids hblocks

/-- Three sections that ask for one name: the second and the third share it with the first. -/
example : (census (["who", "where", "when"].map fun id =>
      ⟨id, "", none, [.question ⟨"name", "", none, false⟩ .short none], []⟩)).warnings.map
    (fun i => (i.sectionId, i.message)) =
      [(some "where", "Block id 'name' is used in sections 'who' and 'where'; " ++
          "their answers will overwrite each other."),
        (some "when", "Block id 'name' is used in sections 'who' and 'when'; " ++
          "their answers will overwrite each other.")] := by decide

end IntakeForms.Flow
