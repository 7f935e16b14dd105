import IntakeForms.Store.Call

/-!
A store that keeps its records and submissions as they are.
-/

namespace IntakeForms

structure Memory where
  ids : Ids
  records : List (String × Record) := []
  submissions : List (String × List Submission) := []

namespace Memory

open Store

def record? (m : Memory) (id : String) : Option Record := Entries.get? id m.records

def all (m : Memory) : List Record := m.records.map Prod.snd

def submissionsOf (m : Memory) (id : String) : List Submission :=
  (Entries.get? id m.submissions).getD []

def store (m : Memory) (r : Record) : Memory := { m with records := Entries.put r.id r m.records }

def create (title workspace : String) (draft : Option Draft) (now : Timestamp) (m : Memory) :
    Record × Memory :=
  let (id, ids) := Ids.newId "intake" m.ids
  let (slug, ids) := Ids.slug title ids
  let r := freshRecord title workspace draft id slug now
  (r, { ids := ids, records := Entries.put id r m.records
        submissions := Entries.put id [] m.submissions })

def inWorkspace (workspace : Option String) (r : Record) : Bool :=
  match workspace with
  | none => true
  | some w => r.workspace = w

def addSubmission (id : String) (answers : Answer.Answers) (trail : Trail) (now : Timestamp)
    (m : Memory) : Submission × Memory :=
  let (subId, ids) := Ids.newId "sub" m.ids
  let s : Submission := ⟨subId, id, answers, trail, now⟩
  (s, { m with ids := ids
               submissions := Entries.put id (m.submissionsOf id ++ [s]) m.submissions })

def run (now : Timestamp) : (c : Call) → Memory → Except Failure c.Reply × Memory
  | .create title workspace draft, m =>
    let (r, m) := m.create title workspace draft now
    (.ok r, m)
  | .get id, m => (.ok (m.record? id), m)
  | .bySlug slug, m => (.ok (m.all.find? (·.slug = slug)), m)
  | .list workspace, m => (.ok (latestFirst Record.updatedAt (m.all.filter (inWorkspace workspace))), m)
  | .saveDraft id draft, m =>
    match m.record? id with
    | none => (.error (.notFound id), m)
    | some r =>
      let r := { r with draft := draft, updatedAt := now }
      (.ok r, m.store r)
  | .publish id snapshot, m =>
    match m.record? id with
    | none => (.error (.notFound id), m)
    | some r =>
      let r := { r with published := some snapshot, updatedAt := now }
      (.ok r, m.store r)
  | .addSubmission id answers trail, m =>
    match m.record? id with
    | none => (.error (.notFound id), m)
    | some _ =>
      let (s, m) := m.addSubmission id answers trail now
      (.ok s, m)
  | .submissions id limit, m =>
    match m.record? id with
    | none => (.error (.notFound id), m)
    | some _ => (.ok (upTo limit (latestFirst Submission.createdAt (m.submissionsOf id))), m)

def backend : Backend Memory where
  run now c m :=
    let (reply, next) := run now c m
    ⟨reply, next, []⟩

end Memory

end IntakeForms
