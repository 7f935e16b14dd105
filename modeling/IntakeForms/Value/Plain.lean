import IntakeForms.Value.Display

/-!
The form a value takes in a written document.  Null stands for a number that is
not finite, and text for a moment and for a key that is not text; keys with the
same text become one.  A value that is too deep or holds something without a form
has no written form, for which `obstacle?` gives the reason.  The main statement
says that a document of finite numbers is written as it is.
-/

namespace IntakeForms

def Key.plain : Key → String
  | .bool b => if b then "true" else "false"
  | .real x => if x.isFinite then x.shown else Key.null.display
  | k => k.display

/-- Why a value cannot be written. -/
inductive Obstacle
  | tooDeep
  | formless
deriving DecidableEq, Repr

def Key.obstacle? : Key → Option Obstacle
  | .foreign _ => some .formless
  | _ => none

namespace Value

mutual

def plain : Value → Value
  | .real x => if x.isFinite then .real x else .null
  | .list items => .list (plainItems items)
  | .map entries => .map (Entries.ofList (plainEntries entries))
  | .moment t => .text t.iso
  | v => v

def plainItems : List Value → List Value
  | [] => []
  | v :: rest => v.plain :: plainItems rest

def plainEntries : List (Key × Value) → List (Key × Value)
  | [] => []
  | (k, v) :: rest => (.text k.plain, v.plain) :: plainEntries rest

end

mutual

/-- The first obstacle to writing a value of at most `room` levels, of which it is one itself. -/
def obstacle? : (room : Nat) → Value → Option Obstacle
  | 0, _ => some .tooDeep
  | room + 1, .list items => itemsObstacle? room items
  | room + 1, .map entries => entriesObstacle? room entries
  | _ + 1, .foreign _ => some .formless
  | _ + 1, _ => none

def itemsObstacle? : (room : Nat) → List Value → Option Obstacle
  | _, [] => none
  | room, v :: rest => (obstacle? room v).or (itemsObstacle? room rest)

def entriesObstacle? : (room : Nat) → List (Key × Value) → Option Obstacle
  | _, [] => none
  | room, (k, v) :: rest => (k.obstacle?.or (obstacle? room v)).or (entriesObstacle? room rest)

end

def fieldsObstacle? (room : Nat) (fields : List (String × Value)) : Option Obstacle :=
  fields.findSome? fun (_, v) => obstacle? room v

def maxDepth : Nat := 254

/-- How deep it may be in a record, which holds two drafts of the same sections. -/
def maxDepthInRecord : Nat := 253

def writtenUnless (obstacle : Option Obstacle) (written : Value) : Except Obstacle Value :=
  match obstacle with
  | some o => .error o
  | none => .ok written

def plainFields (fields : List (String × Value)) : List (String × Value) :=
  fields.map fun (k, v) => (k, v.plain)

mutual

def isFinite : Value → Bool
  | .real x => x.isFinite
  | .list items => finiteItems items
  | .map entries => finiteEntries entries
  | _ => true

def finiteItems : List Value → Bool
  | [] => true
  | v :: rest => v.isFinite && finiteItems rest

def finiteEntries : List (Key × Value) → Bool
  | [] => true
  | (_, v) :: rest => v.isFinite && finiteEntries rest

end

theorem nodup_of_documentEntries : ∀ es : List (Key × Value), documentEntries es = true →
    (Entries.keys es).Nodup
  | [], _ => by simp [Entries.keys]
  | (.text k, v) :: rest, hd => by
    simp only [documentEntries, Bool.and_eq_true, Bool.not_eq_true', List.contains_eq_mem,
      decide_eq_false_iff_not] at hd
    exact List.nodup_cons.2 ⟨hd.1.2, nodup_of_documentEntries rest hd.2⟩
  | (.null, _) :: _, hd | (.bool _, _) :: _, hd | (.int _, _) :: _, hd
  | (.real _, _) :: _, hd | (.foreign _, _) :: _, hd => by simp [documentEntries] at hd

mutual

theorem plain_of_document : ∀ v : Value, v.isDocument = true → v.isFinite = true → v.plain = v
  | .null, _, _ | .bool _, _, _ | .int _, _, _ | .text _, _, _ => by simp [plain]
  | .real x, _, h => by simp [plain, show x.isFinite = true from h]
  | .list items, hd, hf => by
    rw [plain, plainItems_of_documents items hd hf]
  | .map entries, hd, hf => by
    rw [plain, plainEntries_of_documents entries hd hf,
      Entries.ofList_of_nodup (nodup_of_documentEntries entries hd)]
  | .moment _, h, _ | .foreign _, h, _ => by simp [isDocument] at h

theorem plainItems_of_documents : ∀ vs : List Value, documents vs = true →
    finiteItems vs = true → plainItems vs = vs
  | [], _, _ => rfl
  | v :: rest, hd, hf => by
    simp only [documents, finiteItems, Bool.and_eq_true] at hd hf
    rw [plainItems, plain_of_document v hd.1 hf.1, plainItems_of_documents rest hd.2 hf.2]

theorem plainEntries_of_documents : ∀ es : List (Key × Value), documentEntries es = true →
    finiteEntries es = true → plainEntries es = es
  | [], _, _ => rfl
  | (.text k, v) :: rest, hd, hf => by
    simp only [documentEntries, finiteEntries, Bool.and_eq_true] at hd hf
    rw [plainEntries, plain_of_document v hd.1.1 hf.1, plainEntries_of_documents rest hd.2 hf.2]
    rfl
  | (.null, _) :: _, hd, _ | (.bool _, _) :: _, hd, _ | (.int _, _) :: _, hd, _
  | (.real _, _) :: _, hd, _ | (.foreign _, _) :: _, hd, _ => by simp [documentEntries] at hd

end

end Value

end IntakeForms
