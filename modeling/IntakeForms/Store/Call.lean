import IntakeForms.Log
import IntakeForms.Shape
import IntakeForms.Submission
import IntakeForms.Form
import IntakeForms.Store.Ids
import IntakeForms.Value.Plain

/-!
What a store of forms can be asked.  Every call is answered at once: it has one
reply and leaves one next state, whatever other clients do between two calls.
-/

namespace IntakeForms

inductive Call
  | create (title workspace : String) (draft : Option Draft)
  | get (id : String)
  | bySlug (slug : String)
  | list (workspace : Option String)
  | saveDraft (id : String) (draft : Draft)
  | publish (id : String) (snapshot : Snapshot)
  | addSubmission (id : String) (answers : Answer.Answers) (trail : Trail)
  | submissions (id : String) (limit : Int)

namespace Call

abbrev Reply : Call → Type
  | .create .. => Record
  | .get .. => Option Record
  | .bySlug .. => Option Record
  | .list .. => List Record
  | .saveDraft .. => Record
  | .publish .. => Record
  | .addSubmission .. => Submission
  | .submissions .. => List Submission

end Call

/-- Why a call failed.  A store that keeps documents may find one that it cannot read, be given
what it cannot write, or find documents that it cannot put in order. -/
inductive Failure
  | notFound (id : String)
  | unreadable (problems : List Problem)
  | stuck
  | missingField (name : String)
  | unwritable (obstacle : Obstacle)
  | unordered
deriving DecidableEq

/-- The reply to a call, the next state, and what was noted meanwhile. -/
structure Outcome (σ : Type) (c : Call) where
  reply : Except Failure c.Reply
  state : σ
  entries : List Log.Entry

/-- A store whose states are of the type `σ`. -/
structure Backend (σ : Type) where
  run : (now : Timestamp) → (c : Call) → σ → Outcome σ c

namespace Store

variable {α : Type}

def upTo (limit : Int) (items : List α) : List α :=
  if 0 ≤ limit then items.take limit.toNat else items.take (items.length - (-limit).toNat)

def latestFirst (moment : α → Timestamp) (items : List α) : List α :=
  items.mergeSort fun a b => (moment b).instant ≤ (moment a).instant

theorem perm_latestFirst (moment : α → Timestamp) (items : List α) :
    (latestFirst moment items).Perm items :=
  List.mergeSort_perm _ _

theorem mem_latestFirst {moment : α → Timestamp} {items : List α} {a : α} :
    a ∈ latestFirst moment items ↔ a ∈ items :=
  (perm_latestFirst moment items).mem_iff

theorem latestFirst_sorted (moment : α → Timestamp) (items : List α) :
    (latestFirst moment items).Pairwise fun a b => (moment b).instant ≤ (moment a).instant := by
  refine (List.pairwise_mergeSort ?_ ?_ items).imp fun h => of_decide_eq_true h
  · intro a b c hab hbc
    have hab := of_decide_eq_true hab
    have hbc := of_decide_eq_true hbc
    exact decide_eq_true (Int.le_trans hbc hab)
  · intro a b
    rcases Int.le_total (moment b).instant (moment a).instant with h | h <;> simp [h]

def freshRecord (title workspace : String) (draft : Option Draft) (id slug : String)
    (now : Timestamp) : Record :=
  { id := id, workspace := workspace, title := title, slug := slug
    draft := draft.getD (Draft.titled title), published := none, createdAt := now, updatedAt := now }

end Store

end IntakeForms
