import IntakeForms.Proofs.Service.TrailBounds
import IntakeForms.Proofs.Service.Trail

/-! The path of a guided form, named by an honest client or traced by the service.  What a client
names is cut to the bounds before it is judged, and what the service traces is judged whole; the
two have the same sections in scope exactly when the path keeps to the bounds, and then they come
to the same end. -/

namespace IntakeForms

namespace Trail

open Submission

/-- The client names the sections of the path. -/
def Names (path : List String) (metadata : Value) : Prop :=
  ∃ entries, metadata = .map entries ∧
    either "visitedSectionIds" "visited_section_ids" entries = .texts path

def cut (path : List String) : List String := (path.take maxVisited).map (Text.clip maxSectionId)

theorem visitedOf_texts (path : List String) : visitedOf (.texts path) = cut path := by
  change ((path.map Value.text).take maxVisited).filterMap _ = _
  rw [← List.map_take, List.filterMap_map, cut, ← List.filterMap_eq_map]
  rfl

theorem Names.visited {path : List String} {metadata : Value} (h : Names path metadata) :
    (ofRaw metadata).visited = cut path := by
  obtain ⟨entries, rfl, hpath⟩ := h
  rw [← visitedOf_texts, ← hpath]
  rfl

theorem bounded_cut (path : List String) : Bounded (cut path) :=
  visitedOf_texts path ▸ bounded_visitedOf _

theorem cut_of_bounded {path : List String} (h : Bounded path) : cut path = path := by
  rw [cut, List.take_of_length_le h.1]
  exact (List.map_congr_left fun id hid => Text.clip_of_length_le (h.2 id hid)).trans
    (List.map_id' path)

theorem cut_eq_nil_iff {path : List String} : cut path = [] ↔ path = [] := by
  simp [cut, maxVisited]

theorem Bounded.of_subset {path visited : List String} (h : Bounded visited) (hn : path.Nodup)
    (hsub : path ⊆ visited) : Bounded path :=
  ⟨(hn.subperm hsub).length_le.trans h.1, fun id hid => h.2 id (hsub hid)⟩

end Trail

namespace Service

open Store Answer

theorem inScope_cut_iff {sections : List Section} {path : List String} (hn : path.Nodup)
    (hsub : ∀ id ∈ path, id ∈ sections.map Section.id) :
    Submission.inScope sections (some (Trail.cut path)) =
      Submission.inScope sections (some path) ↔ Trail.Bounded path := by
  constructor
  · intro heq
    refine (Trail.bounded_cut path).of_subset hn fun id hid => ?_
    obtain ⟨s, hs, rfl⟩ := List.mem_map.1 (hsub id hid)
    have hmem : s ∈ Submission.inScope sections (some path) :=
      List.mem_filter.2 ⟨hs, decide_eq_true hid⟩
    rw [← heq] at hmem
    exact of_decide_eq_true (List.mem_filter.1 hmem).2
  · intro hbounded
    rw [Trail.cut_of_bounded hbounded]

end Service

def Verdict.told (v : Verdict) : Except (List Complaint) Answer.Answers :=
  if v.valid then .ok v.sanitized else .error v.errors

namespace Service

open Store Answer

def told : Except Refusal Submission → Option (Except (List Complaint) Answers)
  | .ok s => some (.ok s.answers)
  | .error (.submissionRejected v) => some (.error v.errors)
  | .error _ => none

section

variable {settings : Settings} {k : Kind} {P : Submission → Prop} {now : Timestamp}
  {w : World k.State} {slug : String} {r : Record} {snapshot : Snapshot}

theorem told_submit (h : k.Files P w.store)
    (hfound : ((Operation.published slug).run settings k now w).1 = .ok (r, snapshot))
    (entries : List (Key × Value)) (metadata : Value) :
    told ((Operation.submit slug (.map entries) metadata).run settings k now w).1 =
      some (verdictOn snapshot entries metadata).told := by
  have hrun := (run_submit_map h hfound entries metadata).1
  change told (World.run k.backend now (submit slug (.map entries) metadata) w).1 = _
  rw [hrun, Verdict.told]
  split <;> rfl

theorem trail_submit (h : k.Files P w.store)
    (hfound : ((Operation.published slug).run settings k now w).1 = .ok (r, snapshot))
    {entries : List (Key × Value)} {metadata : Value} {s : Submission}
    (hs : ((Operation.submit slug (.map entries) metadata).run settings k now w).1 = .ok s) :
    s.trail = keptTrail snapshot entries metadata := by
  change (World.run k.backend now (submit slug (.map entries) metadata) w).1 = _ at hs
  rw [(run_submit_map h hfound entries metadata).1] at hs
  split at hs
  · rw [← Except.ok.inj hs]
    rfl
  · cases hs

theorem visited_named (hguided : snapshot.metadata.mode = .guided) {entries : List (Key × Value)}
    {metadata : Value} (hnamed : Trail.Names (traced snapshot entries) metadata) :
    (keptTrail snapshot entries metadata).visited = Trail.cut (traced snapshot entries) := by
  simp only [keptTrail, hguided, hnamed.visited, true_and, Trail.cut_eq_nil_iff]
  split
  · next hnil => rw [hnil]; rfl
  · rfl

theorem visited_alone (hguided : snapshot.metadata.mode = .guided) {metadata : Value}
    (halone : (Trail.ofRaw metadata).visited = []) (entries : List (Key × Value)) :
    (keptTrail snapshot entries metadata).visited = traced snapshot entries := by
  simp [keptTrail, hguided, halone]

theorem verdictOn_guided (hguided : snapshot.metadata.mode = .guided)
    (entries : List (Key × Value)) (metadata : Value) :
    verdictOn snapshot entries metadata = Submission.judge snapshot.sections
      (some (keptTrail snapshot entries metadata).visited) (sanitizeAll entries) := by
  simp [verdictOn, judged, hguided]

end

/-- A client that names the path which the service would trace is judged on the part of it that
is kept, and one that names none on the whole path.  The sections in scope are the same exactly
when the path keeps to the bounds; then both are told the same and the same sections are kept. -/
theorem named_path_agrees (settings : Settings) (k : Kind) (ids : Ids) (w : World k.State)
    (history : History) {now : Timestamp} {slug : String} {r : Record} {snapshot : Snapshot}
    (hfound : ((Operation.published slug).run settings k now
      (after settings k (vacant k ids w) history)).1 = .ok (r, snapshot))
    (hguided : snapshot.metadata.mode = .guided) {entries : List (Key × Value)}
    {named alone : Value}
    (hnamed : Trail.Names (traced snapshot entries) named)
    (halone : (Trail.ofRaw alone).visited = []) :
    let reply := fun metadata => ((Operation.submit slug (.map entries) metadata).run settings k
      now (after settings k (vacant k ids w) history)).1
    let path := traced snapshot entries
    told (reply named) = some (Submission.judge snapshot.sections (some (Trail.cut path))
        (sanitizeAll entries)).told ∧
      told (reply alone) = some (Submission.judge snapshot.sections (some path)
        (sanitizeAll entries)).told ∧
      (∀ s, reply named = .ok s → s.trail.visited = Trail.cut path) ∧
      (Submission.inScope snapshot.sections (some (Trail.cut path)) =
        Submission.inScope snapshot.sections (some path) ↔ Trail.Bounded path) ∧
      (Trail.Bounded path → told (reply named) = told (reply alone) ∧
        ∀ s t, reply named = .ok s → reply alone = .ok t →
          s.trail.visited = path ∧ t.trail.visited = path) := by
  intro reply path
  have hfiles := files_after settings k ids w history
  have hjudged := verdictOn_guided hguided entries
  have hkeptNamed := visited_named hguided hnamed
  have hkeptAlone := visited_alone hguided halone entries
  have htoldNamed : told (reply named) = some (Submission.judge snapshot.sections
      (some (Trail.cut path)) (sanitizeAll entries)).told := by
    rw [told_submit hfiles hfound, hjudged, hkeptNamed]
  have htoldAlone : told (reply alone) = some (Submission.judge snapshot.sections
      (some path) (sanitizeAll entries)).told := by
    rw [told_submit hfiles hfound, hjudged, hkeptAlone]
  have hcut : ∀ s, reply named = .ok s → s.trail.visited = Trail.cut path := by
    intro s hs
    rw [trail_submit hfiles hfound hs, hkeptNamed]
  refine ⟨htoldNamed, htoldAlone, hcut, ?scope, fun hbounded => ⟨?_, fun s t hs ht => ⟨?_, ?_⟩⟩⟩
  case scope => exact inScope_cut_iff (Flow.nodup_tracePath _) (Flow.tracePath_subset _)
  · rw [htoldNamed, htoldAlone, Trail.cut_of_bounded hbounded]
  · rw [hcut s hs, Trail.cut_of_bounded hbounded]
  · rw [trail_submit hfiles hfound ht, hkeptAlone]

def naming (id : String) : Value := .map [(.text "visitedSectionIds", .texts [id])]

theorem names_lone (id : String) (entries : List (Key × Value)) :
    Trail.Names (traced (loneSnapshot id) entries) (naming id) := by
  have htraced : traced (loneSnapshot id) entries = [id] := tracePath_lone id _
  rw [htraced]
  exact ⟨_, rfl, rfl⟩

def loneReply (id : String) (entries : List (Key × Value)) (metadata : Value) :
    Except Refusal Submission :=
  ((Operation.submit "intake-2" (.map entries) metadata).run ⟨{}, false, .usual⟩ .memory eight
    (after ⟨{}, false, .usual⟩ .memory bare (lonePublished id))).1

theorem found_lone (id : String) :
    ((Operation.published "intake-2").run ⟨{}, false, .usual⟩ .memory eight
      (after ⟨{}, false, .usual⟩ .memory bare (lonePublished id))).1 =
        .ok (loneRecord id (some (loneSnapshot id)), loneSnapshot id) :=
  congrArg Prod.fst
    (run_published_lone (congrArg Memory.records (store_lonePublished id)) eight)

theorem named_path_agrees_lone :
    (loneSnapshot "start").metadata.mode = .guided ∧ (Trail.ofRaw .null).visited = [] ∧
      told (loneReply "start" [] (naming "start")) = told (loneReply "start" [] .null) := by
  have hguided : (loneSnapshot "start").metadata.mode = .guided := rfl
  have halone : (Trail.ofRaw .null).visited = [] := rfl
  have hbounded : Trail.Bounded (traced (loneSnapshot "start") []) := by
    have htraced : traced (loneSnapshot "start") [] = ["start"] := tracePath_lone "start" _
    rw [htraced]
    decide
  have hagrees := named_path_agrees ⟨{}, false, .usual⟩ .memory ⟨toString, 0⟩ bare (lonePublished "start")
    (found_lone "start") hguided (names_lone "start" []) halone
  exact ⟨hguided, halone, (hagrees.2.2.2.2 hbounded).1⟩

/-- An identifier that is too long is in scope when it has been traced, and not when it has been
named. -/
theorem overlong_named_accepted :
    (loneSnapshot overlong).metadata.mode = .guided ∧
      Trail.Names (traced (loneSnapshot overlong) []) (naming overlong) ∧
      told (loneReply overlong [] (naming overlong)) = some (.ok []) ∧
      told (loneReply overlong [] .null) =
        some (.error [⟨"name", "Name", "Name is required"⟩]) := by
  have hguided : (loneSnapshot overlong).metadata.mode = .guided := rfl
  have hnamed := names_lone overlong []
  have hfiles := files_after ⟨{}, false, .usual⟩ .memory ⟨toString, 0⟩ bare (lonePublished overlong)
  have htold := told_submit hfiles (found_lone overlong) []
  have htraced : traced (loneSnapshot overlong) [] = [overlong] := tracePath_lone overlong _
  have hnone : Submission.inScope [lone overlong] (some (Trail.cut [overlong])) = [] := by
    refine List.filter_eq_nil_iff.2 fun s hs hscope => not_bounded_overlong ?_
    rw [List.mem_singleton.1 hs] at hscope
    refine (Trail.bounded_cut [overlong]).of_subset (List.nodup_singleton _) ?_
    exact List.cons_subset.2 ⟨of_decide_eq_true hscope, List.nil_subset _⟩
  refine ⟨hguided, hnamed, (htold (naming overlong)).trans ?_, (htold .null).trans ?_⟩
  · have hjudge : Submission.judge (loneSnapshot overlong).sections
        (some (Trail.cut [overlong])) (sanitizeAll []) = ⟨true, [], []⟩ := by
      rw [Submission.judge, show (loneSnapshot overlong).sections = [lone overlong] from rfl, hnone]
      rfl
    rw [verdictOn_guided hguided, visited_named hguided hnamed, htraced, hjudge]
    rfl
  · rw [verdictOn_lone]
    generalize overlong = id
    cbv

end Service

end IntakeForms
