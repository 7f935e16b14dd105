import IntakeForms.Form.Document
import IntakeForms.Store.Call
import IntakeForms.Submission.Document
import IntakeForms.Value.Order

/-!
A store that keeps documents.  A record is one document, changed field by field
and read anew for every reply; the submissions of a form are a collection of
their own.  Documents may also have been put there by other hands.  What its queries
may answer is a parameter: no more is known of them than that they filter, sort and
cut.
-/

namespace IntakeForms

abbrev Document := List (String × Value)

abbrev Collection := List (String × Document)

structure Documents where
  ids : Ids
  intakes : Collection := []
  submissions : List (String × Collection) := []

namespace Collection

def fieldIs (name text : String) (doc : Document) : Bool :=
  Entries.get? name doc = some (.text text)

def dated (name : String) (docs : Collection) : List (Value × String × Document) :=
  docs.filterMap fun d => (Entries.get? name d.2).map fun v => (v, d)

end Collection

/-- How queries are answered.  Documents come in any order unless one is asked for; those of one
moment then come in any order, and so may documents whose fields are no moments that can be
compared.  A limit below one may do anything. -/
structure Queries where
  arrange : Collection → Collection
  latest : List (Value × String × Document) → Except Failure (List (Value × String × Document))
  cut : Int → Collection → Collection
  arrange_perm : ∀ docs, (arrange docs).Perm docs
  latest_perm : ∀ dated, (∀ e ∈ dated, e.1.isZoned = true) →
    ∃ sorted, latest dated = .ok sorted ∧ sorted.Perm dated ∧
      sorted.Pairwise fun e f => Value.order? e.1 f.1 ≠ some .lt
  cut_take : ∀ (n : Nat) docs, 1 ≤ n → cut n docs = docs.take n

namespace Queries

/-- Documents in the order in which they were put there, and a limit below one that drops as many
from the end. -/
def ordered : Queries where
  arrange docs := docs
  latest dated := match Value.latestFirst? Prod.fst dated with
    | some sorted => .ok sorted
    | none => .error .unordered
  cut := Store.upTo
  arrange_perm docs := .refl docs
  latest_perm dated h := by
    obtain ⟨sorted, hsorted, hperm, hlater⟩ := Value.latestFirst?_of_zoned h
    exact ⟨sorted, by rw [hsorted], hperm, hlater⟩
  cut_take n docs _ := by simp [Store.upTo]

variable (q : Queries)

def find? (name text : String) (docs : Collection) : Option (String × Document) :=
  (q.cut 1 (q.arrange (docs.filter fun d => Collection.fieldIs name text d.2))).head?

def latestBy (name : String) (docs : Collection) : Except Failure Collection :=
  (q.latest (Collection.dated name docs)).map (·.map Prod.snd)

end Queries

namespace Documents

open Store

def readable {α : Type} : Parsed α → Except Failure α
  | .ok a => .ok a
  | .problems ps => .error (.unreadable ps)
  | .stuck => .error .stuck

def field (name : String) (doc : Document) : Except Failure Value :=
  match Entries.get? name doc with
  | some v => .ok v
  | none => .error (.missingField name)

def orEmpty (name : String) (doc : Document) : Value :=
  let v := (Entries.get? name doc).getD .null
  if v.truthy then v else .map []

def writable (written : Except Obstacle Value) : Except Failure Value :=
  written.mapError .unwritable

def writePublished : Option Snapshot → Except Failure Value
  | none => .ok .null
  | some s => writable s.write?

def ofRecord (r : Record) : Except Failure Document := do
  let draft ← writable r.draft.write?
  let published ← writePublished r.published
  return [("workspace_id", .text r.workspace), ("title", .text r.title), ("slug", .text r.slug),
    ("draft", draft), ("published", published),
    ("created_at", .moment r.createdAt), ("updated_at", .moment r.updatedAt)]

def readPublished (now : Timestamp) (doc : Document) : Except Failure (Option Snapshot) :=
  let v := (Entries.get? "published" doc).getD .null
  if v.truthy then (readable (Snapshot.shape now v)).map some else .ok none

def toRecord (now : Timestamp) (id : String) (doc : Document) : Except Failure Record := do
  let workspace ← field "workspace_id" doc
  let title := (Entries.get? "title" doc).getD (.text "")
  let slug ← field "slug" doc
  let draft ← readable (Draft.shape (orEmpty "draft" doc))
  let published ← readPublished now doc
  let createdAt ← field "created_at" doc
  let updatedAt ← field "updated_at" doc
  readable ((fun w t s c u => Record.mk id w t s draft published c u)
    <$> (Shape.text workspace).under (.key "workspace_id")
    <*> (Shape.text title).under (.key "title")
    <*> (Shape.text slug).under (.key "slug")
    <*> (Shape.moment createdAt).under (.key "created_at")
    <*> (Shape.moment updatedAt).under (.key "updated_at"))

def ofSubmission (s : Submission) : Document :=
  [("answers", .object s.answers), ("metadata", s.trail.write), ("created_at", .moment s.createdAt)]

def toSubmission (intakeId id : String) (doc : Document) : Except Failure Submission := do
  let trail ← readable (Trail.shape (orEmpty "metadata" doc))
  let createdAt ← field "created_at" doc
  let answers := (Entries.get? "answers" doc).getD (.map [])
  readable ((fun a c => Submission.mk id intakeId a trail c)
    <$> (Shape.mapping answers).under (.key "answers")
    <*> (Shape.moment createdAt).under (.key "created_at"))

def record? (now : Timestamp) (d : Documents) (id : String) : Except Failure (Option Record) :=
  match Entries.get? id d.intakes with
  | some doc => (toRecord now id doc).map some
  | none => .ok none

def require (now : Timestamp) (d : Documents) (id : String) : Except Failure Record :=
  match Entries.get? id d.intakes with
  | some doc => toRecord now id doc
  | none => .error (.notFound id)

def update (id name : String) (written : Except Obstacle Value) (now : Timestamp) (d : Documents) :
    Except Failure Documents := do
  let v ← writable written
  match Entries.get? id d.intakes with
  | some doc =>
    let doc := Entries.putAll doc [(name, v), ("updated_at", .moment now)]
    return { d with intakes := Entries.put id doc d.intakes }
  | none => .error (.notFound id)

def collection (d : Documents) (id : String) : Collection :=
  (Entries.get? id d.submissions).getD []

def putSubmission (intakeId id : String) (doc : Document) (d : Documents) : Documents :=
  { d with submissions :=
      Entries.put intakeId (Entries.put id doc (d.collection intakeId)) d.submissions }

def touch (id : String) (d : Documents) : Documents :=
  { d with submissions := Entries.put id (d.collection id) d.submissions }

def note (message : String) (facts : List (String × Value)) : Log.Entry :=
  ⟨.info, .store, message, facts⟩

def create (title workspace : String) (draft : Option Draft) (now : Timestamp) (d : Documents) :
    Except Failure Record × Documents × List Log.Entry :=
  let (id, ids) := Ids.newId "intake" d.ids
  let (slug, ids) := Ids.slug title ids
  let r := freshRecord title workspace draft id slug now
  let next := { d with ids := ids }
  match ofRecord r with
  | .error f => (.error f, next, [])
  | .ok doc => (.ok r, { next with intakes := Entries.put id doc d.intakes },
      [note "Created intake" [("intake_id", .text id), ("workspace_id", .text workspace),
        ("slug", .text slug)]])

def maxListed : Nat := 100

def listed (q : Queries) (workspace : Option String) (docs : Collection) :
    Except Failure Collection :=
  let own := match workspace with
    | none => docs
    | some w => docs.filter fun d => Collection.fieldIs "workspace_id" w d.2
  (q.latestBy "updated_at" own).map (q.cut maxListed)

def saveDraft (id : String) (draft : Draft) (now : Timestamp) (d : Documents) :
    Except Failure Record × Documents × List Log.Entry :=
  match update id "draft" draft.write? now d with
  | .error f => (.error f, d, [])
  | .ok next =>
    (require now next id, next,
      [note "Saved draft" [("intake_id", .text id), ("sections", .int draft.sections.length)]])

def publish (id : String) (snapshot : Snapshot) (now : Timestamp) (d : Documents) :
    Except Failure Record × Documents × List Log.Entry :=
  match update id "published" snapshot.write? now d with
  | .error f => (.error f, d, [])
  | .ok next =>
    (require now next id, next,
      [note "Stored published snapshot" [("intake_id", .text id), ("slug", .text snapshot.slug)]])

def addSubmission (id : String) (answers : Answer.Answers) (trail : Trail) (now : Timestamp)
    (d : Documents) : Except Failure Submission × Documents :=
  match require now d id with
  | .error f => (.error f, d)
  | .ok _ =>
    let (subId, ids) := Ids.newId "sub" d.ids
    let s : Submission := ⟨subId, id, answers, trail, now⟩
    (.ok s, { d with ids := ids }.putSubmission id subId (ofSubmission s))

def submissionsOf (q : Queries) (id : String) (limit : Int) (d : Documents) :
    Except Failure (List Submission) := do
  let docs ← q.latestBy "created_at" (d.collection id)
  (q.cut limit docs).mapM fun (subId, doc) => toSubmission id subId doc

def list (q : Queries) (workspace : Option String) (now : Timestamp) (d : Documents) :
    Except Failure (List Record) := do
  let docs ← listed q workspace d.intakes
  docs.mapM fun (id, doc) => toRecord now id doc

def run (q : Queries) (now : Timestamp) : (c : Call) → (d : Documents) → Outcome Documents c
  | .create title workspace draft, d =>
    let (reply, next, entries) := d.create title workspace draft now
    ⟨reply, next, entries⟩
  | .get id, d => ⟨d.record? now id, d, []⟩
  | .bySlug slug, d =>
    match q.find? "slug" slug d.intakes with
    | some (id, doc) => ⟨(toRecord now id doc).map some, d, []⟩
    | none => ⟨.ok none, d, []⟩
  | .list workspace, d => ⟨list q workspace now d, d, []⟩
  | .saveDraft id draft, d =>
    let (reply, next, entries) := saveDraft id draft now d
    ⟨reply, next, entries⟩
  | .publish id snapshot, d =>
    let (reply, next, entries) := publish id snapshot now d
    ⟨reply, next, entries⟩
  | .addSubmission id answers trail, d =>
    let (reply, next) := addSubmission id answers trail now d
    ⟨reply, next, []⟩
  | .submissions id limit, d =>
    match require now d id with
    | .error f => ⟨.error f, d, []⟩
    | .ok _ => ⟨submissionsOf q id limit d, d.touch id, []⟩

def backend (q : Queries) : Backend Documents where
  run := run q

end Documents

end IntakeForms
