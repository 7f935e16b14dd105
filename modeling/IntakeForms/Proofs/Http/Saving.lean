import IntakeForms.Proofs.Document.Tags
import IntakeForms.Proofs.Http.Bodies
import IntakeForms.Proofs.Http.Responses
import IntakeForms.Proofs.Service.Atomicity

/-! What becomes of a draft that is sent.  It is read or found wrong unless the tag of a block is a
container.  A draft that was read is saved and shown unless some field of it cannot be written, and
problems are told unless they quote what cannot be sent back; a client learns of nothing else than
that, and that there is no such form. -/

namespace IntakeForms

namespace Store.Kind

def Takes : Kind → Draft → Prop
  | .memory, _ => True
  | .documents _, d => sectionsObstacle? Value.maxDepth d.sections = none

/-- The store takes the draft, and what is held is shown with it. -/
structure Savable (k : Kind) (held : Option Record) (d : Draft) : Prop where
  taken : k.Takes d
  shown : ∀ r ∈ held, Record.obstacle? { r with draft := d } = none

variable {k : Kind} {s : k.State} {m : Memory} {d : Draft}

theorem Shadows.reply_saveDraft (h : k.Shadows s m) (now : Timestamp) (id : String)
    (hgenuine : d.Genuine) (htaken : k.Takes d) :
    (k.backend.run now (.saveDraft id d) s).reply =
      (m.run now (.saveDraft id d)).1.map k.form := by
  cases k with
  | memory =>
    obtain rfl : s = m := h.keeps
    change (Memory.run now (.saveDraft id d) s).1 = _
    cases (Memory.run now (.saveDraft id d) s).1 <;> rfl
  | documents q =>
    have hwrite : d.write? = .ok d.write := by
      rw [Draft.write?, show sectionsObstacle? _ d.sections = none from htaken]
      rfl
    exact (Documents.Holds.run_saveDraft (q := q) h.keeps h.orderly.sound hgenuine hwrite).2

theorem reply_of_not_takes (s : k.State) (now : Timestamp) (id : String) (h : ¬ k.Takes d) :
    ∃ o, (k.backend.run now (.saveDraft id d) s).reply = .error (.unwritable o) := by
  cases k with
  | memory => exact absurd trivial h
  | documents q =>
    obtain ⟨o, ho⟩ := Option.ne_none_iff_exists'.1 h
    have hrefused := Documents.run_obstructed (c := .saveDraft id d) ho (fun _ _ _ => nofun) q now s
    exact ⟨o, congrArg Outcome.reply hrefused⟩

theorem obstacle?_form (k : Kind) (hd : Documented d.sections) (r : Record) (now : Timestamp) :
    (k.form { r with draft := d, updatedAt := now }).obstacle? =
      Record.obstacle? { k.form r with draft := d } := by
  cases k with
  | memory => rfl
  | documents q =>
    change (sectionsObstacle? _ (d.sections.map Section.plain)).or _ =
      (sectionsObstacle? _ d.sections).or _
    rw [sectionsObstacle?_plain hd.kept]
    rfl

end Store.Kind

namespace Http

open Store.Kind

namespace Server

variable {τ : Type} {k : Store.Kind} {setup : Setup k.State τ} {s : Server k.State τ}
  {m : Memory} {id : String} {held : Option Record} {d : Draft}

theorem run_saveDraft (b : Backend k.State) (now : Timestamp) (id : String) (d : Draft)
    (w : World k.State) : (w.run b now (Service.saveDraft id d)).1 =
      (b.run now (.saveDraft id d) w.store).reply.mapError Refusal.ofFailure := by
  rw [Service.saveDraft, Action.perform, World.run]
  cases (b.run now (.saveDraft id d) w.store).reply <;> rfl

theorem status_act_saveDraft (hbackend : setup.backend = k.backend)
    (hstore : k.Shadows s.world.store m) (now : Timestamp) (hd : Documented d.sections)
    (hheld : (k.holdings now s.world.store).record? id = .ok held) :
    (k.Savable held d → (act setup now 200 Record.write? (Service.saveDraft id d) s).1.status =
      if held.isSome then 200 else 404) ∧
    (¬ k.Savable held d →
      (act setup now 200 Record.write? (Service.saveDraft id d) s).1.status = 500) := by
  have hfound : (m.record? id).map k.form = held := by
    rw [hstore.holdings_eq] at hheld
    exact Except.ok.inj hheld
  rw [act_fst, run_saveDraft, hbackend]
  by_cases htaken : k.Takes d
  · rw [hstore.reply_saveDraft now id hd.genuine htaken]
    cases hr : m.record? id with
    | none =>
      obtain rfl : none = held := by rw [← hfound, hr]; rfl
      simp only [Memory.run, hr]
      exact ⟨fun _ => rfl, fun h => absurd ⟨htaken, by simp⟩ h⟩
    | some q =>
      obtain rfl : some (k.form q) = held := by rw [← hfound, hr]; rfl
      have hshown : k.Savable (some (k.form q)) d ↔
          (k.form { q with draft := d, updatedAt := now }).obstacle? = none := by
        rw [obstacle?_form k hd]
        exact ⟨fun h => h.shown _ rfl, fun h => ⟨htaken, by simpa using h⟩⟩
      simp only [Memory.run, hr]
      rw [hshown]
      change (_ → (Response.ofWritten 200 _).status = _) ∧
        (_ → (Response.ofWritten 200 _).status = _)
      rw [Response.status_ofWritten, Record.write?]
      cases (k.form { q with draft := d, updatedAt := now }).obstacle? with
      | none => simp [Value.writtenUnless, Except.toBool]
      | some o => simp [Value.writtenUnless, Except.toBool]
  · obtain ⟨o, ho⟩ := reply_of_not_takes s.world.store now id htaken
    rw [ho]
    exact ⟨fun h => absurd h.taken htaken, fun _ => rfl⟩

theorem status_act_saveDraft_mem (now : Timestamp) (d : Draft) :
    (act setup now 200 Record.write? (Service.saveDraft id d) s).1.status ∈ [200, 404, 500] := by
  rw [act_fst, run_saveDraft]
  cases (setup.backend.run now (.saveDraft id d) s.world.store).reply with
  | ok r =>
    change (Response.ofWritten 200 _).status ∈ _
    rw [Response.status_ofWritten]
    split <;> simp
  | error f => cases f <;> simp [Except.mapError, Refusal.ofFailure, Response.ofRefusal,
      Response.internalError]

section

variable [OfNat τ 0] [Add τ] [Sub τ] [LE τ] [LT τ] [DecidableLE τ] [DecidableLT τ]

theorem status_handle_saveDraft {m : Moment τ} {r : Request} {v : Value}
    (htarget : target r.method (Percent.decode r.path) = .found (.saveDraft id))
    (hbody : r.payload setup.reader = .document v ∨ r.payload setup.reader = .halved v) :
    (handle setup m r s).1.status = match Draft.shape v with
      | .ok d => (act setup m.now 200 Record.write? (Service.saveDraft id d)
          (s.identify setup r).2).1.status
      | .problems ps =>
        if ps.all fun p => Response.isQuoted setup.settings.limits p.input then 422 else 500
      | .stuck => 500 := by
  have hanswer : answer setup m r (s.identify setup r).2 =
      whenBody setup.settings.limits (some (Payload.located (Draft.shape v))) (fun d =>
        act setup m.now 200 Record.write? (Service.saveDraft id d)) (s.identify setup r).2 := by
    simp only [answer, htarget, serve]
    rcases hbody with hbody | hbody <;> rw [hbody] <;> rfl
  rw [(handle_fst setup m r s).1, hanswer]
  cases Draft.shape v with
  | ok d => rfl
  | problems ps =>
    rw [Payload.located_problems]
    change (Response.ofProblems _ _).status = _
    rw [Response.status_ofProblems]
    simp [Payload.input_asAttributes]
  | stuck => rfl

/-- What a body reads as is quoted where it is wrong. -/
def Quoted (limits : Limits) (v : Value) : Prop :=
  ∀ ps, Draft.shape v = .problems ps → ∀ p ∈ ps, Response.isQuoted limits p.input = true

theorem told_or_fails (quoted : Bool) :
    ((if quoted then 422 else 500) ∈ [200, 404, 422] ↔ quoted = true) ∧
      ((if quoted then 422 else 500) ∉ [200, 404, 422] → (if quoted then 422 else 500) = 500) := by
  cases quoted <;> simp

theorem saveDraft_answered_iff {m : Moment τ} {r : Request} {v : Value}
    (hbackend : setup.backend = k.backend) (hreached : Service.Reached setup.settings k s.world)
    (htarget : target r.method (Percent.decode r.path) = .found (.saveDraft id))
    (hbody : r.payload setup.reader = .document v)
    (hheld : (k.holdings m.now s.world.store).record? id = .ok held) :
    ((handle setup m r s).1.status ∈ [200, 404, 422] ↔
      Value.PlainlyTagged (v.part "sections").items ∧ Quoted setup.settings.limits v ∧
        ∀ d, Draft.shape v = .ok d → k.Savable held d) ∧
    ((handle setup m r s).1.status ∉ [200, 404, 422] → (handle setup m r s).1.status = 500) := by
  rw [status_handle_saveDraft htarget (.inl hbody), ← Draft.settled_shape_iff, Parsed.settled_iff,
    Quoted]
  cases hshape : Draft.shape v with
  | stuck => simp
  | problems ps =>
    obtain ⟨htold, hfails⟩ := told_or_fails
      (ps.all fun p => Response.isQuoted setup.settings.limits p.input)
    exact ⟨htold.trans (by simp), hfails⟩
  | ok d =>
    obtain ⟨n, hstore⟩ := hreached.shadows
    rw [← identify_world setup r s] at hstore hheld
    obtain ⟨hsaved, hfails⟩ := status_act_saveDraft hbackend hstore m.now
      (Draft.shape_documented v (isDocument_of_payload hbody) d hshape) hheld
    by_cases hsavable : k.Savable held d
    · simp only [hsaved hsavable]
      cases held <;> simp [hsavable]
    · simp only [hfails hsavable]
      simp [hsavable]

theorem saveDraft_halved {m : Moment τ} {r : Request} {v : Value}
    (htarget : target r.method (Percent.decode r.path) = .found (.saveDraft id))
    (hbody : r.payload setup.reader = .halved v) :
    ((handle setup m r s).1.status ∈ [200, 404, 422] →
      Value.PlainlyTagged (v.part "sections").items ∧ Quoted setup.settings.limits v) ∧
    ((handle setup m r s).1.status ∉ [200, 404, 422] → (handle setup m r s).1.status = 500) := by
  rw [status_handle_saveDraft htarget (.inr hbody), ← Draft.settled_shape_iff, Parsed.settled_iff,
    Quoted]
  cases hshape : Draft.shape v with
  | stuck => simp
  | problems ps =>
    obtain ⟨htold, hfails⟩ := told_or_fails
      (ps.all fun p => Response.isQuoted setup.settings.limits p.input)
    exact ⟨fun h => by simpa using htold.1 h, hfails⟩
  | ok d =>
    have hstatus : (act setup m.now 200 Record.write? (Service.saveDraft id d)
        (s.identify setup r).2).1.status ∈ [200, 404, 500] := status_act_saveDraft_mem m.now d
    refine ⟨fun _ => ⟨nofun, nofun⟩, fun hnot => ?_⟩
    simp only [List.mem_cons, List.not_mem_nil, or_false, not_or] at hstatus hnot
    exact (hstatus.resolve_left hnot.1).resolve_left hnot.2.1

end

def editing : Setup (Store.Kind.State .ordered) Int :=
  ⟨Store.Kind.backend .ordered, ⟨{}, false, .usual⟩, .ofWindow 5 60, fun n => n, toString⟩

def edited : Server (Store.Kind.State .ordered) Int := ⟨Service.opened, RateLimit.start 0, 0⟩

def editOf (body : String) : Request :=
  { method := "PUT", path := "/v1/intakes/intake_1/draft"
    headers := [("content-type", "application/json")], body := body }

theorem target_editOf (body : String) :
    target (editOf body).method (Percent.decode (editOf body).path) =
      .found (.saveDraft "intake_1") := by
  change target "PUT" (Percent.decode "/v1/intakes/intake_1/draft") = _
  decide +kernel

theorem payload_editOf {body : String} {v : Value}
    (hbytes : Text.ofBytes? body.toUTF8.toList = some (body.toList.map .char))
    (hread : readsAs editing.reader body v = true) :
    (editOf body).payload editing.reader = .document v :=
  payload_of_json (by decide +kernel) hbytes hread

theorem held_edited : ∃ q, (Store.Kind.holdings Service.eight .ordered edited.world.store).record?
    "intake_1" = .ok (some q) ∧ q.published = none := by
  have hfound : ((Store.Kind.holdings Service.eight .ordered edited.world.store).record?
      "intake_1").toOption.any (·.any (·.published.isNone)) = true := by
    decide +kernel
  cases hheld : (Store.Kind.holdings Service.eight .ordered edited.world.store).record?
      "intake_1" with
  | error f => simp [hheld, Except.toOption] at hfound
  | ok held =>
    cases held with
    | none => simp [hheld, Except.toOption] at hfound
    | some q => exact ⟨q, rfl, by simpa [hheld, Except.toOption] using hfound⟩

/-- Half of a pair of units is no title that can be sent back. -/
example : (handle editing ⟨Service.eight, 0⟩
    (editOf "\x7b\"metadata\": \x7b\"title\": \"\\ud800\"\x7d\x7d") edited).1.status = 500 := by
  decide +kernel

def listTagged : Value := .object [("id", .text "b"), ("type", .list [])]

def listTaggedBody : String :=
  "\x7b\"sections\": [\x7b\"blocks\": [\x7b\"id\": \"b\", \"type\": []\x7d]\x7d]\x7d"

end Server

end Http

end IntakeForms
