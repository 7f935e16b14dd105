import IntakeForms.Answer.Sanitize
import Mathlib.Data.List.Nodup

/-! What bounding leaves of a value.  A bounded value is a document whose texts are short
and trimmed, whose lists and maps are short and not nested too deep, and whose keys are
short texts.  Bounding is the projection onto these values, for whatever has texts for its keys. -/

namespace IntakeForms

namespace Value

mutual

def depth : Value → Nat
  | .list items => itemsDepth items + 1
  | .map entries => entriesDepth entries + 1
  | _ => 0

def itemsDepth : List Value → Nat
  | [] => 0
  | v :: rest => max v.depth (itemsDepth rest)

def entriesDepth : List (Key × Value) → Nat
  | [] => 0
  | (_, v) :: rest => max v.depth (entriesDepth rest)

end

theorem itemsDepth_le_iff {items : List Value} {n : Nat} :
    itemsDepth items ≤ n ↔ ∀ v ∈ items, v.depth ≤ n := by
  induction items with
  | nil => simp [itemsDepth]
  | cons v rest ih => rw [itemsDepth, Nat.max_le, ih, List.forall_mem_cons]

theorem entriesDepth_le_iff {entries : List (Key × Value)} {n : Nat} :
    entriesDepth entries ≤ n ↔ ∀ e ∈ entries, e.2.depth ≤ n := by
  induction entries with
  | nil => simp [entriesDepth]
  | cons e rest ih => rw [entriesDepth, Nat.max_le, ih, List.forall_mem_cons]

end Value

namespace Answer

/-- Within every limit but that on depth.  Keys are cut and not trimmed. -/
inductive Within : Value → Prop
  | null : Within .null
  | bool (b : Bool) : Within (.bool b)
  | int (n : Int) : Within (.int n)
  | real (x : Binary64) : Within (.real x)
  | text {s : String} :
      s.length ≤ maxText → Text.Trimmed Text.isBlank s.toList → Within (.text s)
  | list {items : List Value} :
      items.length ≤ maxItems → (∀ v ∈ items, Within v) → Within (.list items)
  | map {entries : List (Key × Value)} :
      entries.length ≤ maxKeys → (Entries.keys entries).Nodup →
      (∀ e ∈ entries, ∃ s : String, e.1 = .text s ∧ s.length ≤ maxKey) →
      (∀ e ∈ entries, Within e.2) → Within (.map entries)

structure Bounded (v : Value) : Prop where
  within : Within v
  depth : v.depth ≤ maxDepth

theorem tidy_length_le (s : String) : (tidy s).length ≤ maxText := by
  have hclip := Text.clip_length_le maxText s
  rw [← String.length_toList] at hclip
  rw [tidy, Text.trim, String.length_ofList]
  exact Nat.le_trans (Text.trimBy_length_le _ _) hclip

theorem tidy_trimmed (s : String) : Text.Trimmed Text.isBlank (tidy s).toList := by
  rw [tidy, Text.trim, String.toList_ofList]
  exact Text.trimBy_trimmed _ _

theorem tidy_of_trimmed {s : String} (hlength : s.length ≤ maxText)
    (htrim : Text.Trimmed Text.isBlank s.toList) : tidy s = s := by
  rw [tidy, Text.clip_of_length_le hlength, Text.trim, Text.trimBy_of_trimmed htrim,
    String.ofList_toList]

theorem within_tidy (s : String) : Within (.text (tidy s)) :=
  .text (tidy_length_le s) (tidy_trimmed s)

theorem keyName_length_le (k : Key) : (keyName k).length ≤ maxKey := Text.clip_length_le _ _

theorem exists_of_mem_object {room : Nat} {entries : List (Key × Value)} {e : Key × Value}
    (h : e ∈ (Entries.ofList (entries.map fun (k, v) => (keyName k, sanitizeIn room v))).map
      fun (k, v) => (Key.text k, v)) :
    ∃ k v, e = (.text (keyName k), sanitizeIn room v) := by
  obtain ⟨f, hf, rfl⟩ := List.mem_map.1 h
  obtain ⟨g, -, rfl⟩ := List.mem_map.1 (Entries.mem_of_mem_ofList hf)
  exact ⟨g.1, g.2, rfl⟩

theorem keys_object (fields : List (String × Value)) :
    Entries.keys (fields.map fun (k, v) => (Key.text k, v)) = (Entries.keys fields).map .text := by
  rw [Entries.keys, Entries.keys, List.map_map, List.map_map]
  rfl

theorem depth_sanitizeIn (room : Nat) (v : Value) : (sanitizeIn room v).depth ≤ room := by
  induction room generalizing v with
  | zero => cases v <;> simp [sanitizeIn, Value.depth]
  | succ room ih =>
    cases v with
    | list items =>
      rw [sanitizeIn, Value.depth, Nat.add_le_add_iff_right, Value.itemsDepth_le_iff]
      intro v hv
      obtain ⟨u, -, rfl⟩ := List.mem_map.1 hv
      exact ih u
    | map entries =>
      rw [sanitizeIn, Value.object, Value.depth, Nat.add_le_add_iff_right,
        Value.entriesDepth_le_iff]
      intro e he
      obtain ⟨k, v, rfl⟩ := exists_of_mem_object he
      exact ih v
    | _ => simp [sanitizeIn, Value.depth]

theorem within_sanitizeIn (room : Nat) (v : Value) : Within (sanitizeIn room v) := by
  induction room generalizing v with
  | zero =>
    cases v with
    | text s => exact within_tidy s
    | bool b => exact .bool b
    | int n => exact .int n
    | real x => exact .real x
    | _ => exact .null
  | succ room ih =>
    cases v with
    | text s => exact within_tidy s
    | moment t => exact within_tidy _
    | foreign s => exact within_tidy s
    | bool b => exact .bool b
    | int n => exact .int n
    | real x => exact .real x
    | null => exact .null
    | list items =>
      rw [sanitizeIn]
      refine .list ?_ fun v hv => ?_
      · rw [List.length_map]
        exact List.length_take_le _ _
      · obtain ⟨u, -, rfl⟩ := List.mem_map.1 hv
        exact ih u
    | map entries =>
      rw [sanitizeIn, Value.object]
      refine .map ?_ ?_ (fun e he => ?_) fun e he => ?_
      · rw [List.length_map]
        refine Nat.le_trans (Entries.length_ofList_le _) ?_
        rw [List.length_map]
        exact List.length_take_le _ _
      · rw [keys_object]
        exact (Entries.keys_ofList_nodup _).map fun _ _ h => Key.text.inj h
      · obtain ⟨k, v, rfl⟩ := exists_of_mem_object he
        exact ⟨_, rfl, keyName_length_le k⟩
      · obtain ⟨k, v, rfl⟩ := exists_of_mem_object he
        exact ih v

theorem sanitizeIn_of_within {v : Value} (h : Within v) {room : Nat} (hdepth : v.depth ≤ room) :
    sanitizeIn room v = v := by
  induction h generalizing room with
  | null | bool | int | real => cases room <;> rfl
  | text hlength htrim => rw [sanitizeIn, tidy_of_trimmed hlength htrim]
  | @list items hlength _ ih =>
    cases room with
    | zero => simp [Value.depth] at hdepth
    | succ room =>
      rw [Value.depth, Nat.add_le_add_iff_right, Value.itemsDepth_le_iff] at hdepth
      rw [sanitizeIn, List.take_of_length_le hlength,
        List.map_congr_left fun v hv => ih v hv (hdepth v hv), List.map_id']
  | @map entries hlength hkeys hshort _ ih =>
    cases room with
    | zero => simp [Value.depth] at hdepth
    | succ room =>
      rw [Value.depth, Nat.add_le_add_iff_right, Value.entriesDepth_le_iff] at hdepth
      have hback : ((entries.map fun e => (keyName e.1, sanitizeIn room e.2)).map
          fun (k, v) => (Key.text k, v)) = entries := by
        rw [List.map_map]
        refine (List.map_congr_left fun e he => ?_).trans (List.map_id _)
        obtain ⟨s, hs, hlength⟩ := hshort e he
        refine Prod.ext ?_ (ih e he (hdepth e he))
        change Key.text (keyName e.1) = e.1
        rw [hs]
        exact congrArg Key.text (Text.clip_of_length_le hlength)
      have hnodup : (Entries.keys (entries.map fun e => (keyName e.1, sanitizeIn room e.2))).Nodup := by
        rw [← hback, keys_object] at hkeys
        exact hkeys.of_map
      rw [sanitizeIn, List.take_of_length_le hlength, Entries.ofList_of_nodup hnodup, Value.object,
        hback]

theorem bounded_sanitize (v : Value) : Bounded (sanitize v) :=
  ⟨within_sanitizeIn maxDepth v, depth_sanitizeIn maxDepth v⟩

theorem sanitize_of_bounded {v : Value} (h : Bounded v) : sanitize v = v :=
  sanitizeIn_of_within h.within h.depth

/-- The keys that bounding comes upon. -/
def reachedKeys : (room : Nat) → Value → List Key
  | room + 1, .list items => (items.take maxItems).flatMap (reachedKeys room)
  | room + 1, .map entries =>
    (entries.take maxKeys).flatMap fun e => e.1 :: reachedKeys room e.2
  | _, _ => []

theorem mapM_ite {α β : Type} {p : α → Bool} {g : α → β} (l : List α) :
    (l.mapM fun a => if p a then some (g a) else none) =
      if l.all p then some (l.map g) else none := by
  induction l with
  | nil => rfl
  | cons a rest ih =>
    rw [List.mapM_cons, ih, List.all_cons]
    cases ha : p a with
    | false => rfl
    | true => cases hrest : rest.all p <;> simp

theorem keyName?_eq (digits : Nat) (k : Key) :
    keyName? digits k = if (keyName? digits k).isSome then some (keyName k) else none := by
  cases k with
  | int n =>
    rw [keyName?]
    split <;> rfl
  | _ => rfl

theorem sanitizeIn?_eq (digits room : Nat) (v : Value) :
    sanitizeIn? digits room v =
      if (reachedKeys room v).all fun k => (keyName? digits k).isSome then some (sanitizeIn room v)
      else none := by
  induction room generalizing v with
  | zero => cases v <;> rfl
  | succ room ih =>
    cases v with
    | list items =>
      rw [sanitizeIn?, funext ih, mapM_ite, sanitizeIn, reachedKeys, List.all_flatMap]
      split <;> rfl
    | map entries =>
      have hentry : (fun e : Key × Value => do
            let v ← sanitizeIn? digits room e.2
            let name ← keyName? digits e.1
            return (name, v)) =
          fun e => if (e.1 :: reachedKeys room e.2).all fun k => (keyName? digits k).isSome then
            some (keyName e.1, sanitizeIn room e.2) else none := by
        funext e
        rw [ih, keyName?_eq, List.all_cons]
        cases (keyName? digits e.1).isSome <;>
          cases (reachedKeys room e.2).all fun k => (keyName? digits k).isSome <;> rfl
      rw [sanitizeIn?, hentry, mapM_ite, sanitizeIn, reachedKeys, List.all_flatMap]
      split <;> rfl
    | _ => rfl

theorem isSome_keyName?_of_within {digits room : Nat} {v : Value} (h : Within v) :
    ∀ k ∈ reachedKeys room v, (keyName? digits k).isSome = true := by
  induction h generalizing room with
  | @list items _ _ ih =>
    cases room with
    | zero => exact nofun
    | succ room =>
      rw [reachedKeys, List.forall_mem_flatMap]
      exact fun v hv => ih v (List.mem_of_mem_take hv)
  | @map entries _ _ hshort _ ih =>
    cases room with
    | zero => exact nofun
    | succ room =>
      rw [reachedKeys, List.forall_mem_flatMap]
      intro e he
      obtain ⟨s, hs, -⟩ := hshort e (List.mem_of_mem_take he)
      exact List.forall_mem_cons.2 ⟨by rw [hs]; rfl, ih e (List.mem_of_mem_take he)⟩
  | _ => cases room <;> exact nofun

theorem sanitize?_eq_some_iff {digits : Nat} {v w : Value} :
    sanitize? digits v = some w ↔
      (∀ k ∈ reachedKeys maxDepth v, (keyName? digits k).isSome = true) ∧ sanitize v = w := by
  rw [sanitize?, sanitizeIn?_eq, ← List.all_eq_true]
  cases (reachedKeys maxDepth v).all fun k => (keyName? digits k).isSome with
  | false => simp
  | true => simp [sanitize]

theorem sanitize?_of_bounded (digits : Nat) {v : Value} (h : Bounded v) :
    sanitize? digits v = some v :=
  sanitize?_eq_some_iff.2 ⟨isSome_keyName?_of_within h.within, sanitize_of_bounded h⟩

theorem isSome_keyName?_iff {digits : Nat} {k : Key} :
    (keyName? digits k).isSome = true ↔ ∀ n, k = .int n → digitCount n ≤ digits := by
  cases k with
  | int n =>
    rw [keyName?]
    split <;> simp <;> omega
  | _ => simp [keyName?]

end Answer

end IntakeForms
