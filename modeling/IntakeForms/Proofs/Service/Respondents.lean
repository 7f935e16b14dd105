import IntakeForms.Proofs.Store.Records
import IntakeForms.Service

/-! What respondents are told.  A published form is found by its slug, and on a sound
store the answer to a question and the verdict on a submission depend on its snapshot
alone. -/

namespace IntakeForms

namespace World

variable {σ α β : Type} {b : Backend σ} {now : Timestamp}

@[simp] theorem record_nil (w : World σ) : w.record [] = w := by
  simp [record]

theorem run_bind_ok {a : Action α} {x : α} {w next : World σ} (h : run b now a w = (.ok x, next))
    (f : α → Action β) : run b now (a >>= f) w = run b now (f x) next := by
  change run b now (a.bind f) w = _
  rw [run_bind, h]

theorem run_bind_error {a : Action α} {e : Refusal} {w next : World σ}
    (h : run b now a w = (.error e, next)) (f : α → Action β) :
    run b now (a >>= f) w = (.error e, next) := by
  change run b now (a.bind f) w = _
  rw [run_bind, h]

end World

namespace Service

open Answer

variable {w : World Memory} {r : Record} {snapshot : Snapshot}

theorem run_published (h : w.store.Sound) (hr : r ∈ w.store.all) (hs : r.published = some snapshot)
    (now : Timestamp) :
    World.run Memory.backend now (published r.slug) w = (.ok (r, snapshot), w) := by
  have hfind : Memory.run now (.bySlug r.slug) w.store = (.ok (some r), w.store) := by
    rw [Memory.run, h.find_slug hr]
  simp [published, Action.perform, bind, Action.bind, World.run, Memory.backend, hfind, hs]
  rfl

theorem run_next (h : w.store.Sound) (hr : r ∈ w.store.all) (hs : r.published = some snapshot)
    (now : Timestamp) (id : String) (answers : Answers) :
    World.run Memory.backend now (next r.slug id answers) w =
      (match snapshot.sections.find? (·.id = id) with
        | some s => .ok (Flow.resolveNext s answers)
        | none => .error (.sectionNotFound r.slug id), w) := by
  rw [next, World.run_bind_ok (run_published h hr hs now)]
  cases hfind : snapshot.sections.find? (·.id = id) with
  | none => simp [hfind, Action.refuse, World.run]
  | some s => simp [hfind, pure, World.run]

/-- What a submission comes to once the sections in scope are known. -/
def settled (w : World Memory) (r : Record) (trail : Trail) (verdict : Verdict) (now : Timestamp) :
    Except Refusal Submission :=
  if verdict.valid then
    .ok ⟨(Ids.newId "sub" w.store.ids).1, r.id, verdict.sanitized, trail, now⟩
  else .error (.submissionRejected verdict)

theorem run_submit (h : w.store.Sound) (hr : r ∈ w.store.all) (hs : r.published = some snapshot)
    (now : Timestamp) {entries : List (Key × Value)} {metadata : Value} {trail : Trail}
    {visited : Option (List String)}
    (htrail : trailOf snapshot (.map entries) metadata = return (trail, visited)) :
    (World.run Memory.backend now (submit r.slug (.map entries) metadata) w).1 =
      settled w r trail (Submission.judge snapshot.sections visited (sanitizeAll entries)) now := by
  have hrecord := h.mem_all_iff.1 hr
  have hadd : ∀ answers, Memory.run now (.addSubmission r.id answers trail) w.store =
      (.ok (w.store.addSubmission r.id answers trail now).1,
        (w.store.addSubmission r.id answers trail now).2) := by
    intro answers
    rw [Memory.run, hrecord]
  rw [submit, World.run_bind_ok (run_published h hr hs now)]
  simp only [htrail, judge, Submission.validate?]
  unfold settled
  cases hv : (Submission.judge snapshot.sections visited (sanitizeAll entries)).valid with
  | false => simp [bind, pure, Action.bind, Action.tell, Action.refuse, World.run, hv]
  | true =>
    simp [bind, pure, Action.bind, Action.perform, Action.tell, Action.publish, World.run,
      Memory.backend, hadd, hv]
    rfl

theorem trailOf_guided (hmode : snapshot.metadata.mode = .guided) {metadata : Value}
    (hnamed : (Trail.ofRaw metadata).visited = []) (entries : List (Key × Value)) :
    trailOf snapshot (.map entries) metadata =
      return ({ Trail.ofRaw metadata with
          visited := Flow.tracePath snapshot.sections (sanitizeAll entries) none },
        some (Flow.tracePath snapshot.sections (sanitizeAll entries) none)) := by
  simp [trailOf, hmode, visitedBy, hnamed, bind, pure, Action.bind]

end Service

end IntakeForms
