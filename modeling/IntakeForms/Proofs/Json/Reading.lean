import IntakeForms.Json.Reader
import IntakeForms.Value.Plain

/-! The value of what is read from JSON is a document if its texts are whole: nothing comes of it
but null, truth values, numbers, text, lists, and maps that have text keys and give none of them
twice. -/

namespace IntakeForms

namespace Value

theorem documents_iff {items : List Value} :
    documents items = true ↔ ∀ v ∈ items, v.isDocument = true := by
  induction items with
  | nil => simp [documents]
  | cons v rest ih => simp [documents, ih]

def EntryIsDocument (e : Key × Value) : Prop := (∃ k, e.1 = .text k) ∧ e.2.isDocument = true

theorem documentEntries_of_nodup {entries : List (Key × Value)}
    (h : ∀ e ∈ entries, EntryIsDocument e) (hn : (Entries.keys entries).Nodup) :
    documentEntries entries = true := by
  induction entries with
  | nil => rfl
  | cons e rest ih =>
    rw [List.forall_mem_cons] at h
    obtain ⟨k, v⟩ := e
    obtain ⟨⟨⟨name, rfl⟩, hv⟩, hrest⟩ := h
    obtain ⟨hnew, hrestn⟩ := List.nodup_cons.1 hn
    simp only [documentEntries, Bool.and_eq_true, Bool.not_eq_true', List.contains_eq_mem,
      decide_eq_false_iff_not]
    exact ⟨⟨hv, hnew⟩, ih hrest hrestn⟩

end Value

namespace Json

theorem textKey_of_whole {ps : List Text.Point} (h : ps.all Text.Point.isChar = true) :
    textKey ps = .text (textOf ps) := if_pos h

namespace Tree

mutual

theorem isDocument_value : ∀ t : Tree, t.isWhole = true → t.value.isDocument = true
  | .null, _ | .bool _, _ | .int _, _ | .real _, _ => rfl
  | .text ps, h => by
    rw [value, textKey_of_whole h]
    rfl
  | .list items, h => Value.documents_iff.2 (isDocument_values items h)
  | .map members, h => by
    -- the last value of a key is that of some member
    have hentries : ∀ e ∈ Entries.ofList (entries members), Value.EntryIsDocument e :=
      fun e he => isDocument_entries members h e (Entries.mem_of_mem_ofList he)
    exact Value.documentEntries_of_nodup hentries (Entries.keys_ofList_nodup _)

theorem isDocument_values : ∀ ts : List Tree, areWhole ts = true →
    ∀ v ∈ values ts, v.isDocument = true
  | [], _ => by simp [values]
  | t :: rest, h => by
    obtain ⟨ht, hrest⟩ := Bool.and_eq_true_iff.1 h
    exact List.forall_mem_cons.2 ⟨isDocument_value t ht, isDocument_values rest hrest⟩

theorem isDocument_entries : ∀ members : List (List Text.Point × Tree),
    membersWhole members = true → ∀ e ∈ entries members, Value.EntryIsDocument e
  | [], _ => by simp [entries]
  | (name, t) :: rest, h => by
    obtain ⟨hhead, hrest⟩ := Bool.and_eq_true_iff.1 h
    obtain ⟨hname, ht⟩ := Bool.and_eq_true_iff.1 hhead
    exact List.forall_mem_cons.2
      ⟨⟨⟨_, textKey_of_whole hname⟩, isDocument_value t ht⟩, isDocument_entries rest hrest⟩

end

end Tree

theorem read_eq_ok_iff {b : Bounds} {s : String} {t : Tree} :
    read b s = .ok t ↔ document b s.toList = .ok t := by
  constructor
  · intro h
    unfold read at h
    split at h <;> cases h
    assumption
  · intro h
    simp only [read, h]

end Json

end IntakeForms
