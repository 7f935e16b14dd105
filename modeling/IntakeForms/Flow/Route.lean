import IntakeForms.Answer.Sanitize
import IntakeForms.Section

/-!
Which section follows.  Every `equals` rule is tried before the fallback, in any
order of the list; without a match and a fallback the form is complete.  A path
follows the rules until the form is complete, a section is missing, or a section
comes up again.
-/

namespace IntakeForms.Flow

open Answer

def answerMatches (answer : Option Value) (expected : String) : Bool :=
  match answer with
  | some (.text s) => s == expected
  | some (.list items) => items.any fun
    | .text s => s == expected
    | _ => false
  | _ => false

def sourceOf? (r : Rule) : Option String :=
  match r.operator, r.source with
  | .equals, some b => if b.isEmpty then none else some b
  | _, _ => none

def ruleHolds (answers : Answers) (r : Rule) : Bool :=
  match sourceOf? r, r.value with
  | some b, some v => answerMatches (Entries.get? b answers) v
  | _, _ => false

def matchConditional (rules : List Rule) (answers : Answers) : Option Rule :=
  rules.find? (ruleHolds answers)

def matchFallback (rules : List Rule) : Option Rule :=
  rules.find? Rule.isFallback

def resolveNext (s : Section) (answers : Answers) : Option String :=
  ((matchConditional s.rules answers).or (matchFallback s.rules)).map Rule.target

def sectionAt? (sections : List Section) (id : String) : Option Section :=
  sections.reverse.find? (·.id = id)

def walk (next : String → Option String) (left : List String) (id : String) : List String :=
  if id ∈ left then
    match next id with
    | none => [id]
    | some n => id :: walk next (left.erase id) n
  else []
termination_by left.length
decreasing_by
  next h =>
    have := List.length_erase_of_mem h
    have := List.length_pos_of_mem h
    omega

theorem walk_subset (next : String → Option String) (left : List String) (id : String) :
    ∀ x ∈ walk next left id, x ∈ left := by
  fun_induction walk next left id with
  | case1 left id h hn => simp [h]
  | case2 left id h n hn ih =>
    intro x hx
    rcases List.mem_cons.1 hx with rfl | hx
    · exact h
    · exact List.mem_of_mem_erase (ih x hx)
  | case3 => simp

theorem nodup_walk (next : String → Option String) {left : List String} (h : left.Nodup)
    (id : String) : (walk next left id).Nodup := by
  fun_induction walk next left id with
  | case1 => simp
  | case2 left id hm n hn ih =>
    rw [List.nodup_cons]
    refine ⟨fun hid => ?_, ih (h.erase id)⟩
    have := walk_subset next (left.erase id) n id hid
    exact (List.Nodup.mem_erase_iff h).1 this |>.1 rfl
  | case3 => simp

def distinct : List String → List String
  | [] => []
  | a :: rest => a :: (distinct rest).filter (· ≠ a)

theorem mem_distinct {a : String} {l : List String} : a ∈ distinct l ↔ a ∈ l := by
  induction l with
  | nil => simp [distinct]
  | cons b rest ih => by_cases h : a = b <;> simp [distinct, h, ih]

theorem nodup_distinct (l : List String) : (distinct l).Nodup := by
  induction l with
  | nil => simp [distinct]
  | cons b rest ih =>
    rw [distinct, List.nodup_cons]
    exact ⟨by simp, ih.filter _⟩

def resolveAt (sections : List Section) (answers : Answers) (id : String) : Option String :=
  (sectionAt? sections id).bind fun s => resolveNext s answers

def tracePath (sections : List Section) (answers : Answers) (start : Option String) : List String :=
  match start.or (sections.head?.map (·.id)) with
  | none => []
  | some id => walk (resolveAt sections answers) (distinct (sections.map (·.id))) id

end IntakeForms.Flow
