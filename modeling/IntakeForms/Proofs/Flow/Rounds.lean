import IntakeForms.Proofs.Flow.Paths
import Mathlib.Data.List.Chain

/-! The path of a form, round by round.  Each round visits the section where one is, of several
with its identifier the last, as long as there is one and it is new.  What holds of the path
after every round is said once; the end of the rounds is the path, which is therefore as long as
it can be without a repetition, and lies in the graph that the check searches. -/

namespace IntakeForms.Flow

open Relation Answer

variable {sections : List Section} {answers : Answers} {start : Option String}

def LastOf (sections : List Section) (id : String) (s : Section) : Prop :=
  ∃ before after, sections = before ++ s :: after ∧ s.id = id ∧ ∀ t ∈ after, t.id ≠ id

/-- The sections visited so far, and where one is. -/
structure Visit where
  path : List String
  current : Option String

/-- A section that exists and is new is visited, and its rules say where one goes. -/
inductive Round (sections : List Section) (answers : Answers) : Visit → Visit → Prop
  | visit {path id s} : LastOf sections id s → id ∉ path →
      Round sections answers ⟨path, some id⟩ ⟨path ++ [id], resolveNext s answers⟩

/-- Where a path begins: where one asks for, or else at the first section. -/
def startOf (sections : List Section) (start : Option String) : Option String :=
  start.or (sections.head?.map Section.id)

def Follows (sections : List Section) (answers : Answers) (a b : String) : Prop :=
  (∃ s, LastOf sections a s ∧ resolveNext s answers = some b) ∧ (graphOf sections).Edge a b

def Stops (sections : List Section) (answers : Answers) (path : List String) (a : String) : Prop :=
  ∃ s, LastOf sections a s ∧
    ∀ b, resolveNext s answers = some b → b ∉ sections.map Section.id ∨ b ∈ path

/-- A path without repetitions that begins at `start`, follows the answers and cannot go on. -/
structure MaximalPath (sections : List Section) (answers : Answers) (start : Option String)
    (path : List String) : Prop where
  nodup : path.Nodup
  named : ∀ id ∈ path, id ∈ sections.map Section.id
  empty : path = [] ↔ ∀ id ∈ start, id ∉ sections.map Section.id
  head : path ≠ [] → path.head? = start
  chain : path.IsChain (Follows sections answers)
  reached : ∀ first ∈ start, ∀ id ∈ path, id ∈ (graphOf sections).reachable first
  last : ∀ id ∈ path.getLast?, Stops sections answers path id

theorem LastOf.mem {id : String} {s : Section} (h : LastOf sections id s) :
    s ∈ sections ∧ s.id = id := by
  obtain ⟨before, after, rfl, hid, -⟩ := h
  exact ⟨by simp, hid⟩

theorem LastOf.id_mem {id : String} {s : Section} (h : LastOf sections id s) :
    id ∈ sections.map Section.id := h.mem.2 ▸ List.mem_map_of_mem h.mem.1

theorem sectionAt?_eq_some_iff_lastOf {id : String} {s : Section} :
    sectionAt? sections id = some s ↔ LastOf sections id s := by
  unfold sectionAt? LastOf
  rw [List.find?_eq_some_iff_append]
  constructor
  · rintro ⟨hid, after, before, hrev, hafter⟩
    refine ⟨before.reverse, after.reverse, ?_, by simpa using hid, by simpa using hafter⟩
    simpa using congrArg List.reverse hrev
  · rintro ⟨before, after, rfl, hid, hafter⟩
    exact ⟨by simpa using hid, after.reverse, before.reverse, by simp, by simpa using hafter⟩

theorem exists_lastOf {id : String} (h : id ∈ sections.map Section.id) :
    ∃ s, LastOf sections id s := by
  obtain ⟨s, hs, hid⟩ := List.mem_map.1 h
  cases hfind : sectionAt? sections id with
  | some t => exact ⟨t, sectionAt?_eq_some_iff_lastOf.1 hfind⟩
  | none => exact absurd hid (by simpa using List.find?_eq_none.1 hfind s (List.mem_reverse.2 hs))

/-- What holds of the path after any number of rounds from `start`: it follows the answers, and
one is where they lead from its end. -/
structure Following (sections : List Section) (answers : Answers) (start : Option String)
    (v : Visit) : Prop where
  nodup : v.path.Nodup
  named : ∀ id ∈ v.path, id ∈ sections.map Section.id
  head : v.path ≠ [] → v.path.head? = start
  chain : v.path.IsChain (Follows sections answers)
  fresh : v.path = [] → v.current = start
  onward : ∀ id ∈ v.path.getLast?, ∃ s, LastOf sections id s ∧ v.current = resolveNext s answers

theorem following_start : Following sections answers start ⟨[], start⟩ where
  nodup := List.nodup_nil
  named := by simp
  head := by simp
  chain := .nil
  fresh _ := rfl
  onward := by simp

theorem follows_of_resolveNext {a b : String} {s : Section} (hs : LastOf sections a s)
    (hb : resolveNext s answers = some b) (hmem : b ∈ sections.map Section.id) :
    Follows sections answers a b := by
  refine ⟨⟨s, hs, hb⟩, edge_graphOf_iff.2 ⟨?_, hmem⟩⟩
  obtain ⟨r, live, htarget⟩ := live_of_resolveNext hb
  exact ⟨s, hs.mem.1, hs.mem.2, r, live.mem, htarget⟩

theorem Following.round {v w : Visit} (h : Following sections answers start v)
    (round : Round sections answers v w) : Following sections answers start w := by
  cases round with
  | @visit path id s hs hnew =>
    have hid := hs.id_mem
    refine ⟨?_, ?_, fun _ => ?_, ?_, by simp, ?_⟩
    · simpa using h.nodup.concat hnew
    · intro a ha
      rcases List.mem_append.1 ha with ha | ha
      · exact h.named a ha
      · rwa [List.mem_singleton.1 ha]
    · cases path with
      | nil => exact h.fresh rfl
      | cons a rest => exact h.head (by simp)
    · refine List.IsChain.append h.chain (.singleton id) fun a ha b hb => ?_
      obtain ⟨t, ht, hcurrent⟩ := h.onward a ha
      obtain rfl := Option.some.inj hb
      exact follows_of_resolveNext ht hcurrent.symm hid
    · intro a ha
      obtain rfl : id = a := by simpa using ha
      exact ⟨s, hs, rfl⟩

theorem Following.rounds {v w : Visit} (h : Following sections answers start v)
    (rounds : ReflTransGen (Round sections answers) v w) :
    Following sections answers start w := by
  induction rounds with
  | refl => exact h
  | tail _ round ih => exact ih.round round

theorem exists_round_iff {v : Visit} :
    (∃ w, Round sections answers v w) ↔
      ∃ id, v.current = some id ∧ id ∈ sections.map Section.id ∧ id ∉ v.path := by
  constructor
  · rintro ⟨_, ⟨hs, hnew⟩⟩
    exact ⟨_, rfl, hs.id_mem, hnew⟩
  · obtain ⟨path, current⟩ := v
    rintro ⟨id, rfl, hid, hnew⟩
    obtain ⟨s, hs⟩ := exists_lastOf hid
    exact ⟨_, .visit hs hnew⟩

theorem round_of_mem {path : List String} {id : String} (hid : id ∈ sections.map Section.id)
    (hnew : id ∉ path) :
    Round sections answers ⟨path, some id⟩ ⟨path ++ [id], resolveAt sections answers id⟩ := by
  obtain ⟨s, hs⟩ := exists_lastOf hid
  rw [resolveAt, sectionAt?_eq_some_iff_lastOf.2 hs]
  exact .visit hs hnew

theorem rounds_walk {left path : List String} {id : String} (hn : left.Nodup)
    (hleft : ∀ x, x ∈ left ↔ x ∈ sections.map Section.id ∧ x ∉ path) :
    ∃ next, ReflTransGen (Round sections answers) ⟨path, some id⟩
        ⟨path ++ walk (resolveAt sections answers) left id, next⟩ ∧
      ∀ w, ¬ Round sections answers
        ⟨path ++ walk (resolveAt sections answers) left id, next⟩ w := by
  fun_induction walk (resolveAt sections answers) left id generalizing path with
  | case1 left id h hnone =>
    obtain ⟨hid, hnew⟩ := (hleft id).1 h
    exact ⟨none, .single (hnone ▸ round_of_mem hid hnew), fun w round => by cases round⟩
  | case2 left id h n hnext ih =>
    obtain ⟨hid, hnew⟩ := (hleft id).1 h
    have hrest : ∀ x, x ∈ left.erase id ↔ x ∈ sections.map Section.id ∧ x ∉ path ++ [id] := by
      intro x
      rw [hn.mem_erase_iff, hleft, List.mem_append, List.mem_singleton]
      tauto
    obtain ⟨next, rounds, ends⟩ := ih (hn.erase id) hrest
    rw [List.append_assoc] at rounds ends
    exact ⟨next, .head (hnext ▸ round_of_mem hid hnew) rounds, ends⟩
  | case3 left id h =>
    refine ⟨some id, by simpa using .refl, fun w round => ?_⟩
    obtain ⟨x, hx, hid, hnew⟩ := exists_round_iff.1 ⟨w, round⟩
    obtain rfl := Option.some.inj hx
    exact h ((hleft id).2 ⟨hid, by simpa using hnew⟩)

theorem rounds_tracePath (sections : List Section) (answers : Answers) (start : Option String) :
    ∃ next, ReflTransGen (Round sections answers) ⟨[], startOf sections start⟩
        ⟨tracePath sections answers start, next⟩ ∧
      ∀ w, ¬ Round sections answers ⟨tracePath sections answers start, next⟩ w := by
  unfold tracePath startOf
  cases start.or (sections.head?.map Section.id) with
  | none => exact ⟨none, .refl, fun w round => by cases round⟩
  | some id =>
    exact rounds_walk (nodup_distinct _) fun x => by simp [mem_distinct]

theorem Following.maximal {path : List String} {next : Option String}
    (h : Following sections answers start ⟨path, next⟩)
    (ends : ∀ w, ¬ Round sections answers ⟨path, next⟩ w) :
    MaximalPath sections answers start path := by
  have hends : ∀ id, next = some id → id ∉ sections.map Section.id ∨ id ∈ path := by
    intro id hid
    by_contra hnot
    rw [not_or, not_not] at hnot
    have more : ∃ w, Round sections answers ⟨path, next⟩ w := exists_round_iff.2 ⟨id, hid, hnot⟩
    obtain ⟨w, round⟩ := more
    exact ends w round
  refine ⟨h.nodup, h.named, ⟨fun hnil id hid => ?_, fun hstart => ?_⟩, h.head, h.chain,
    fun first hfirst id hid => ?_, fun id hid => ?_⟩
  · have hnext : next = start := h.fresh hnil
    exact (hends id (hnext.trans hid)).resolve_right (by simp [hnil])
  · by_contra hne
    obtain ⟨a, ha⟩ := Option.isSome_iff_exists.1 (List.isSome_head?.2 hne)
    exact hstart a ((h.head hne).symm.trans ha) (h.named a (List.mem_of_head? ha))
  · refine h.chain.induction _ _ (fun a b step ha => ?_) (fun hne => ?_) id hid
    · rw [Graph.mem_reachable_iff] at ha ⊢
      exact .tail ha step.2
    · have heq : some (path.head hne) = start := List.head?_eq_some_head hne ▸ h.head hne
      obtain rfl : path.head hne = first := Option.some.inj (heq.trans hfirst)
      exact Graph.mem_reachable_iff.2 .refl
  · obtain ⟨s, hs, hcurrent⟩ := h.onward id hid
    exact ⟨s, hs, fun b hb => hends b (hcurrent.trans hb)⟩

/-- The path of a form is the end of its rounds, and cannot be longer. -/
theorem tracePath_maximal (sections : List Section) (answers : Answers) (start : Option String) :
    (∃ next, ReflTransGen (Round sections answers) ⟨[], startOf sections start⟩
        ⟨tracePath sections answers start, next⟩ ∧
      ∀ w, ¬ Round sections answers ⟨tracePath sections answers start, next⟩ w) ∧
    MaximalPath sections answers (startOf sections start) (tracePath sections answers start) := by
  obtain ⟨next, rounds, ends⟩ := rounds_tracePath sections answers start
  exact ⟨⟨next, rounds, ends⟩, (following_start.rounds rounds).maximal ends⟩

end IntakeForms.Flow
