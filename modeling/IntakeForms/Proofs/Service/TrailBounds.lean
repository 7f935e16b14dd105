import IntakeForms.Proofs.Flow.Paths
import IntakeForms.Proofs.Service.Receipts

/-! The bounds on what is stored of how a form was filled in.  The sections that a client names are
cut to the bounds and so is the moment it gives, whatever it sends; the path that the service
traces itself is stored as it is, so it keeps to the bounds only where the form does. -/

namespace IntakeForms

namespace Trail

open Submission

/-- No more identifiers than are kept, and none longer than is kept. -/
def Bounded (visited : List String) : Prop :=
  visited.length ≤ maxVisited ∧ ∀ id ∈ visited, id.length ≤ maxSectionId

instance : DecidablePred Bounded := fun _ => inferInstanceAs (Decidable (_ ∧ _))

theorem bounded_nil : Bounded [] := ⟨Nat.zero_le _, nofun⟩

theorem bounded_visitedOf (v : Value) : Bounded (visitedOf v) := by
  cases v with
  | list items =>
    constructor
    · refine (List.length_filterMap_le _ _).trans ?_
      rw [List.length_take]
      exact Nat.min_le_left _ _
    · intro id hid
      obtain ⟨item, -, hitem⟩ := List.mem_filterMap.1 hid
      cases item with
      | text s =>
        rw [← Option.some.inj hitem]
        exact Text.clip_length_le _ _
      | _ => cases hitem
  | _ => exact bounded_nil

theorem length_of_momentOf {v : Value} {t : String} (h : t ∈ momentOf v) :
    t.length ≤ maxMoment := by
  cases v with
  | text s =>
    rw [← Option.some.inj h]
    exact Text.clip_length_le _ _
  | _ => cases h

theorem bounded_ofRaw (metadata : Value) :
    Bounded (ofRaw metadata).visited ∧
      ∀ t ∈ (ofRaw metadata).submittedAt, t.length ≤ maxMoment := by
  cases metadata with
  | map entries => exact ⟨bounded_visitedOf _, fun t ht => length_of_momentOf ht⟩
  | _ => exact ⟨bounded_nil, nofun⟩

end Trail

namespace Service

open Store Answer

theorem bounded_keptTrail_iff (snapshot : Snapshot) (entries : List (Key × Value))
    (metadata : Value) :
    Trail.Bounded (keptTrail snapshot entries metadata).visited ↔
      (snapshot.metadata.mode = .guided → (Trail.ofRaw metadata).visited = [] →
        Trail.Bounded (traced snapshot entries)) := by
  rw [← and_imp, keptTrail]
  split
  · next htraced => exact ⟨fun h _ => h, fun h => h htraced⟩
  · next hnamed => exact ⟨fun _ h => absurd h hnamed, fun _ => (Trail.bounded_ofRaw metadata).1⟩

/-- Whatever has been asked of a service that began with nothing, every submission it holds was
the reply to a set of answers for a published snapshot.  The moment that is stored with it is
bounded; so are the sections, unless the form is guided, none were named, and the path that was
traced on the snapshot is not bounded. -/
theorem held_trail_bounded_iff (settings : Settings) (k : Kind) (ids : Ids) (w : World k.State)
    (history : History) (moment : Timestamp) (id : String) :
    ∃ held, (k.holdings moment (after settings k (vacant k ids w) history).store).submissions id =
          .ok held ∧
      ∀ s ∈ held, (∀ t ∈ s.trail.submittedAt, t.length ≤ Submission.maxMoment) ∧
        ∃ earlier now slug entries metadata later r snapshot,
          history = earlier ++ (now, .submit slug (.map entries) metadata) :: later ∧
          ((Operation.published slug).run settings k now
            (after settings k (vacant k ids w) earlier)).1 = .ok (r, snapshot) ∧
          ((Operation.submit slug (.map entries) metadata).run settings k now
            (after settings k (vacant k ids w) earlier)).1 = .ok s ∧
          (Trail.Bounded s.trail.visited ↔
            (snapshot.metadata.mode = .guided → (Trail.ofRaw metadata).visited = [] →
              Trail.Bounded (traced snapshot entries))) := by
  have hfiles := files_after settings k ids w
  obtain ⟨held, hheld, hacknowledged⟩ := (hfiles history).holdings moment id
  refine ⟨held, hheld, fun s hs => ?_⟩
  obtain ⟨earlier, now, slug, answers, metadata, later, rfl, hreply⟩ := hacknowledged s hs
  obtain ⟨entries, r, snapshot, rfl, hfound, rfl⟩ := submit_eq_ok (hfiles earlier) hreply
  exact ⟨(Trail.bounded_ofRaw metadata).2, earlier, now, slug, entries, metadata, later, r,
    snapshot, rfl, hfound, hreply, bounded_keptTrail_iff snapshot entries metadata⟩

def lone (id : String) : Section :=
  ⟨id, "", none, [.question ⟨"name", "Name", none, true⟩ .short none], []⟩

theorem publishable_lone (policy : Flow.Policy) (id : String) :
    Flow.Publishable policy [lone id] := by
  have reached : Flow.Reached [lone id] id := ⟨lone id, rfl, .refl⟩
  refine
    { nonempty := List.cons_ne_nil _ _
      sectionIds := List.nodup_singleton _
      blockIds := by simp [lone]
      targets := by simp [lone]
      answerable := by simp [lone]
      fallbacks := by simp [lone]
      bookings := by simp [lone]
      exits := ?_
      unreached := by simpa [lone] using fun _ => reached }
  rintro x ⟨first, hfirst, path⟩
  cases hfirst
  refine ⟨lone id, by simp, by simp [Flow.Open, lone], ?_⟩
  rcases path.cases_tail with rfl | ⟨c, -, s, hs, -, r, hr, -⟩
  · exact .refl
  · rw [List.mem_singleton.1 hs] at hr
    cases hr

theorem tracePath_lone (id : String) (answers : Answers) :
    Flow.tracePath [lone id] answers none = [id] := by
  change Flow.walk _ (Flow.distinct [id]) id = [id]
  rw [Flow.walk_of_mem (Flow.mem_distinct.2 (List.mem_singleton.2 rfl))]
  simp [Flow.resolveAt, Flow.sectionAt?, Flow.resolveNext, Flow.matchConditional,
    Flow.matchFallback, lone]

theorem judge_lone (id : String) (answers : Answers) :
    Submission.judge [lone id] (some [id]) answers = Submission.judge [lone id] none answers := by
  simp [Submission.judge, Submission.inScope, lone]

theorem store_publish {settings : Settings} {w : World Memory} {id : String} {r : Record}
    (hr : w.store.record? id = some r) (hsections : r.draft.sections ≠ [])
    (hcopied : r.draft.isCopied settings.limits.copying = true)
    (hvalid : (Flow.check settings.policy r.draft.sections).isValid = true) (now : Timestamp) :
    (World.run Memory.backend now (publish settings id) w).2.store =
      w.store.store
        { r with published := some (r.draft.freeze r.slug now), updatedAt := now } := by
  have hget : World.run Memory.backend now (Service.get id) w = (.ok r, w) := by
    simp [Service.get, Action.perform, bind, Action.bind, World.run, Memory.backend, Memory.run, hr]
    rfl
  have hdraft : draftOf settings r = return r.draft := by simp [draftOf, hsections, hcopied]
  have hrun (entries : List Log.Entry) :
      Memory.run now (.publish id (r.draft.freeze r.slug now)) (w.record entries).store =
        (.ok { r with published := some (r.draft.freeze r.slug now), updatedAt := now },
          w.store.store
            { r with published := some (r.draft.freeze r.slug now), updatedAt := now }) := by
    change Memory.run now _ w.store = _
    rw [Memory.run, hr]
  rw [publish, World.run_bind_ok hget, hdraft]
  simp [check, hsections, bind, pure, Action.bind, Action.tell, World.run, hvalid, Action.now,
    Action.perform, Memory.backend, hrun, Action.publish]
  rfl

def bare : World (Kind.State .memory) :=
  vacant .memory ⟨toString, 0⟩ ⟨{ ids := ⟨toString, 0⟩ }, ⟨"", .absent, []⟩, ⟨"", [], 0⟩, []⟩

def loneDrafted (id : String) : History :=
  [(eight, .create "" ""), (eight, .saveDraft "intake_1" { sections := [lone id] })]

def lonePublished (id : String) : History := loneDrafted id ++ [(eight, .publish "intake_1")]

def loneSnapshot (id : String) : Snapshot := ⟨"intake-2", {}, [lone id], eight⟩

def loneRecord (id : String) (published : Option Snapshot) : Record :=
  ⟨"intake_1", "", "", "intake-2", { sections := [lone id] }, published, eight, eight⟩

theorem store_loneDrafted (id : String) :
    (after ⟨{}, false, .usual⟩ .memory bare (loneDrafted id)).store =
      { ids := ⟨toString, 2⟩, records := [("intake_1", loneRecord id none)]
        submissions := [("intake_1", [])] } := by
  cbv

theorem store_lonePublished (id : String) :
    (after ⟨{}, false, .usual⟩ .memory bare (lonePublished id)).store =
      { ids := ⟨toString, 2⟩, records := [("intake_1", loneRecord id (some (loneSnapshot id)))]
        submissions := [("intake_1", [])] } := by
  have hdrafted := store_loneDrafted id
  have hvalid := Flow.isValid_of_publishable (publishable_lone {} id)
  rw [lonePublished, after_concat]
  generalize after ⟨{}, false, .usual⟩ .memory bare (loneDrafted id) = w at hdrafted ⊢
  refine (@store_publish ⟨{}, false, .usual⟩ w "intake_1" (loneRecord id none) ?_
    (List.cons_ne_nil _ _) rfl hvalid eight).trans ?_
  · rw [hdrafted]
    rfl
  · rw [hdrafted]
    rfl

theorem run_published_lone {w : World Memory} {id : String}
    (hrecords : w.store.records = [("intake_1", loneRecord id (some (loneSnapshot id)))])
    (now : Timestamp) :
    World.run Memory.backend now (published "intake-2") w =
      (.ok (loneRecord id (some (loneSnapshot id)), loneSnapshot id), w) := by
  have hnothing : Memory.Sound { ids := w.store.ids } := .empty rfl
  have hsound : w.store.Sound := hnothing.put (r := loneRecord id (some (loneSnapshot id)))
    hrecords fun hq _ => by cases hq
  have hmem : loneRecord id (some (loneSnapshot id)) ∈ w.store.all := by
    rw [Memory.all, hrecords]
    exact List.mem_singleton.2 rfl
  exact run_published hsound hmem rfl now

theorem keptTrail_lone (id : String) (entries : List (Key × Value)) :
    keptTrail (loneSnapshot id) entries .null = ⟨[id], none⟩ := by
  have htraced : traced (loneSnapshot id) entries = [id] := tracePath_lone id _
  have hguided : (loneSnapshot id).metadata.mode = .guided := rfl
  simp [keptTrail, Trail.ofRaw, htraced, hguided]

theorem verdictOn_lone (id : String) (entries : List (Key × Value)) :
    verdictOn (loneSnapshot id) entries .null =
      Submission.judge [lone id] none (sanitizeAll entries) := by
  rw [verdictOn, judged, keptTrail_lone]
  exact judge_lone id _

theorem store_submit_lone {w : World Memory} {id : String}
    (hrecords : w.store.records = [("intake_1", loneRecord id (some (loneSnapshot id)))])
    {entries : List (Key × Value)}
    (hvalid : (Submission.judge [lone id] none (sanitizeAll entries)).valid = true)
    (now : Timestamp) :
    (World.run Memory.backend now (submit "intake-2" (.map entries) .null) w).2.store =
      (w.store.addSubmission "intake_1"
        (Submission.judge [lone id] none (sanitizeAll entries)).sanitized ⟨[id], none⟩ now).2 := by
  have hr : w.store.record? "intake_1" = some (loneRecord id (some (loneSnapshot id))) := by
    rw [Memory.record?, hrecords]
    rfl
  have hadd (answers : Answers) (trail : Trail) :
      Memory.run now (.addSubmission "intake_1" answers trail) w.store =
        (.ok (w.store.addSubmission "intake_1" answers trail now).1,
          (w.store.addSubmission "intake_1" answers trail now).2) := by
    rw [Memory.run, hr]
  rw [submit_map, World.run_bind_ok (run_published_lone hrecords now), verdictOn_lone,
    keptTrail_lone]
  refine (run_deliver_valid hvalid (congrArg Prod.fst (hadd _ _))).2.trans ?_
  exact congrArg Prod.snd (hadd _ _)

def letters (n : Nat) : String := String.ofList (List.replicate n 'x')

theorem length_letters (n : Nat) : (letters n).length = n := by
  rw [letters, String.length_ofList, List.length_replicate]

def overlong : String := letters (Submission.maxSectionId + 1)

theorem not_bounded_overlong : ¬ Trail.Bounded [overlong] := by
  intro hbounded
  have hlength := hbounded.2 overlong (List.mem_singleton.2 rfl)
  rw [overlong, length_letters] at hlength
  exact absurd hlength (Nat.not_succ_le_self _)

/-- The path is stored as it was traced. -/
theorem overlong_held_unbounded :
    ∃ s, (Kind.holdings eight .memory (after ⟨{}, false, .usual⟩ .memory bare
        (lonePublished overlong ++ [(eight, .submit "intake-2"
          (.map [(.text "name", .text "Ada")]) .null)])).store).submissions "intake_1" = .ok [s] ∧
      ¬ Trail.Bounded s.trail.visited := by
  have hstore := store_lonePublished overlong
  have hvalid (id : String) : (Submission.judge [lone id] none
      (sanitizeAll [(.text "name", .text "Ada")])).valid = true := by cbv
  have hnext := store_submit_lone (w := after ⟨{}, false, .usual⟩ .memory bare (lonePublished overlong))
    (congrArg Memory.records hstore) (hvalid overlong) eight
  rw [after_concat]
  refine ⟨⟨"sub_3", "intake_1", [("name", .text "Ada")], ⟨[overlong], none⟩, eight⟩, ?_, ?_⟩
  · refine congrArg Except.ok ?_
    change Memory.submissionsOf (World.run Memory.backend eight (submit "intake-2" _ .null)
      (after ⟨{}, false, .usual⟩ .memory bare (lonePublished overlong))).2.store "intake_1" = _
    rw [hnext, hstore]
    generalize overlong = id
    cbv
  · exact not_bounded_overlong

end Service

end IntakeForms
