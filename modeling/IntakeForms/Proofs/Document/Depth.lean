import IntakeForms.Form.Document
import Mathlib.Tactic.SplitIfs

/-! How deep documents are.  A document has a written form exactly if its levels fit the room
there is for it, and so have fields that are documents; a list of sections is written if the
further fields of its blocks are. -/

namespace IntakeForms

namespace Value

theorem obstacle?_of_document {room : Nat} {v : Value} (h : v.isDocument = true) :
    v.obstacle? room = if v.levels ≤ room then none else some .tooDeep := by
  -- on the room, which each level takes one of; the members of a level are a list of their own
  induction room generalizing v with
  | zero => cases v <;> simp [obstacle?, levels]
  | succ room ih =>
    have hitems : ∀ items : List Value, documents items = true →
        itemsObstacle? room items =
          if itemsLevels items ≤ room then none else some .tooDeep := by
      intro items
      induction items with
      | nil => simp [itemsObstacle?, itemsLevels]
      | cons v rest ihrest =>
        intro hd
        simp only [documents, Bool.and_eq_true] at hd
        rw [itemsObstacle?, ih hd.1, ihrest hd.2, itemsLevels]
        split_ifs <;> first | rfl | omega
    have hentries : ∀ entries : List (Key × Value), documentEntries entries = true →
        entriesObstacle? room entries =
          if entriesLevels entries ≤ room then none else some .tooDeep := by
      intro entries
      induction entries with
      | nil => simp [entriesObstacle?, entriesLevels]
      | cons e rest ihrest =>
        obtain ⟨k, v⟩ := e
        intro hd
        cases k with
        | text k =>
          simp only [documentEntries, Bool.and_eq_true] at hd
          rw [entriesObstacle?, ih hd.1.1, ihrest hd.2, entriesLevels]
          split_ifs <;> first | rfl | omega
        | _ => simp [documentEntries] at hd
    cases v with
    | list items => simp [obstacle?, levels, hitems items h]
    | map entries => simp [obstacle?, levels, hentries entries h]
    | foreign => cases h
    | _ => simp [obstacle?, levels]

theorem keys_plainEntries : ∀ es : List (Key × Value), documentEntries es = true →
    Entries.keys (plainEntries es) = Entries.keys es
  | [], _ => rfl
  | (.text k, v) :: rest, hd => by
    simp only [documentEntries, Bool.and_eq_true] at hd
    exact congrArg (Key.text k :: ·) (keys_plainEntries rest hd.2)
  | (.null, _) :: _, hd | (.bool _, _) :: _, hd | (.int _, _) :: _, hd
  | (.real _, _) :: _, hd | (.foreign _, _) :: _, hd => by simp [documentEntries] at hd

mutual

theorem obstacle?_plain : ∀ (v : Value) (room : Nat), v.isDocument = true →
    v.plain.obstacle? room = v.obstacle? room
  | _, 0, _ => by simp [obstacle?]
  | .null, _ + 1, _ | .bool _, _ + 1, _ | .int _, _ + 1, _ | .text _, _ + 1, _ => by simp [plain]
  | .real x, _ + 1, _ => by
    rw [plain]
    split <;> simp [obstacle?]
  | .list items, room + 1, hd => itemsObstacle?_plain items room hd
  | .map entries, room + 1, hd => by
    have hkeys : (Entries.keys (plainEntries entries)).Nodup := by
      rw [keys_plainEntries entries hd]
      exact nodup_of_documentEntries entries hd
    rw [plain, Entries.ofList_of_nodup hkeys]
    exact entriesObstacle?_plain entries room hd
  | .moment _, _ + 1, hd | .foreign _, _ + 1, hd => by simp [isDocument] at hd

theorem itemsObstacle?_plain : ∀ (items : List Value) (room : Nat), documents items = true →
    itemsObstacle? room (plainItems items) = itemsObstacle? room items
  | [], _, _ => rfl
  | v :: rest, room, hd => by
    simp only [documents, Bool.and_eq_true] at hd
    rw [plainItems, itemsObstacle?, itemsObstacle?, obstacle?_plain v room hd.1,
      itemsObstacle?_plain rest room hd.2]

theorem entriesObstacle?_plain : ∀ (entries : List (Key × Value)) (room : Nat),
    documentEntries entries = true →
    entriesObstacle? room (plainEntries entries) = entriesObstacle? room entries
  | [], _, _ => rfl
  | (.text k, v) :: rest, room, hd => by
    simp only [documentEntries, Bool.and_eq_true] at hd
    rw [plainEntries, entriesObstacle?, entriesObstacle?, obstacle?_plain v room hd.1.1,
      entriesObstacle?_plain rest room hd.2]
    rfl
  | (.null, _) :: _, _, hd | (.bool _, _) :: _, _, hd | (.int _, _) :: _, _, hd
  | (.real _, _) :: _, _, hd | (.foreign _, _) :: _, _, hd => by simp [documentEntries] at hd

end

theorem fieldsObstacle?_append (room : Nat) (fields more : List (String × Value)) :
    fieldsObstacle? room (fields ++ more) =
      (fieldsObstacle? room fields).or (fieldsObstacle? room more) :=
  List.findSome?_append

theorem fieldsObstacle?_of_documents {room : Nat} {fields : List (String × Value)}
    (h : ∀ e ∈ fields, e.2.isDocument = true) :
    fieldsObstacle? room fields =
      if ∀ e ∈ fields, e.2.levels ≤ room then none else some .tooDeep := by
  induction fields with
  | nil => simp [fieldsObstacle?]
  | cons e rest ih =>
    rw [List.forall_mem_cons] at h
    have happend := fieldsObstacle?_append room [e] rest
    have hhead : fieldsObstacle? room [e] = e.2.obstacle? room := by
      cases he : e.2.obstacle? room <;> simp [fieldsObstacle?, he]
    rw [List.singleton_append, hhead, ih h.2, obstacle?_of_document h.1] at happend
    have hall : (∀ f ∈ e :: rest, f.2.levels ≤ room) ↔
        e.2.levels ≤ room ∧ ∀ f ∈ rest, f.2.levels ≤ room := List.forall_mem_cons
    rw [happend]
    by_cases he : e.2.levels ≤ room
    · rw [if_pos he, Option.none_or]
      exact ite_congr (propext (by simp only [hall, he, true_and])) (fun _ => rfl) fun _ => rfl
    · rw [if_neg he, Option.some_or, if_neg fun h => he (hall.1 h).1]

theorem fieldsObstacle?_plain {room : Nat} {fields : List (String × Value)}
    (h : ∀ e ∈ fields, e.2.isDocument = true) :
    fieldsObstacle? room (plainFields fields) = fieldsObstacle? room fields := by
  induction fields with
  | nil => rfl
  | cons e rest ih =>
    rw [List.forall_mem_cons] at h
    obtain ⟨k, v⟩ := e
    have hrest := ih h.2
    simp only [fieldsObstacle?, plainFields] at hrest ⊢
    simp only [List.map_cons, List.findSome?_cons, obstacle?_plain v room h.1, hrest]

end Value

theorem mem_keptIn {sections : List Section} {s : Section} (hs : s ∈ sections) {b : Block}
    (hb : b ∈ s.blocks) {e : String × Value} (he : e ∈ b.kept) : e ∈ keptIn sections :=
  List.mem_flatMap.2 ⟨s, hs, List.mem_flatMap.2 ⟨b, hb, he⟩⟩

theorem sectionsObstacle?_eq (room : Nat) (sections : List Section) :
    sectionsObstacle? room sections = Value.fieldsObstacle? room (keptIn sections) := by
  have hblocks : ∀ blocks : List Block, blocks.findSome? (Block.obstacle? room) =
      Value.fieldsObstacle? room (blocks.flatMap Block.kept) := by
    intro blocks
    induction blocks with
    | nil => rfl
    | cons b rest ih =>
      have hb : b.obstacle? room = Value.fieldsObstacle? room b.kept := by cases b <;> rfl
      rw [List.flatMap_cons, Value.fieldsObstacle?_append, ← ih, ← hb, List.findSome?_cons]
      cases b.obstacle? room <;> rfl
  induction sections with
  | nil => rfl
  | cons s rest ih =>
    have hs : s.obstacle? room = Value.fieldsObstacle? room (s.blocks.flatMap Block.kept) :=
      hblocks s.blocks
    rw [keptIn, List.flatMap_cons, Value.fieldsObstacle?_append, ← hs, ← keptIn, ← ih,
      sectionsObstacle?, List.findSome?_cons]
    cases s.obstacle? room <;> rfl

end IntakeForms
