import IntakeForms.Proofs.Answer.Tidy
import IntakeForms.Proofs.Flow.Paths
import IntakeForms.Proofs.Service.Snapshots

/-! The path of a respondent.  The viewer asks what follows section by section, with the
answers as they were given; a submission that names no sections is judged on a path that
the service traces itself, with the answers as they are stored.  The two are one path as
long as what is stored leads where what was given does. -/

namespace IntakeForms.Service

open Answer

/-- The path a viewer is led along from `id`, after the sections in `seen`: until the form is
complete or a section comes up again. -/
inductive Viewed (ask : String → Except Refusal (Option String)) :
    List String → String → List String → Prop
  | complete {seen : List String} {id : String} : ask id = .ok none → Viewed ask seen id [id]
  | again {seen : List String} {id t : String} :
      ask id = .ok (some t) → t ∈ id :: seen → Viewed ask seen id [id]
  | next {seen path : List String} {id t : String} :
      ask id = .ok (some t) → t ∉ id :: seen → Viewed ask (id :: seen) t path →
        Viewed ask seen id (id :: path)

section

variable {ask ask' : String → Except Refusal (Option String)} {f g : String → Option String}
  {ids seen path : List String} {id : String}

theorem Viewed.unique {other : List String} (h : Viewed ask seen id path)
    (h' : Viewed ask seen id other) : path = other := by
  induction h generalizing other with
  | complete hask =>
    cases h' with
    | complete | again => rfl
    | next hask' => cases hask.symm.trans hask'
  | again hask hseen =>
    cases h' with
    | complete | again => rfl
    | next hask' hnew =>
      cases hask.symm.trans hask'
      exact absurd hseen hnew
  | next hask hnew _ ih =>
    cases h' with
    | complete hask' => cases hask.symm.trans hask'
    | again hask' hseen =>
      cases hask.symm.trans hask'
      exact absurd hseen hnew
    | next hask' _ hrest =>
      cases hask.symm.trans hask'
      rw [ih hrest]

theorem viewed_walk (hask : ∀ x ∈ ids, ask x = .ok (f x)) (hclosed : ∀ x ∈ ids, ∀ t ∈ f x, t ∈ ids)
    {left : List String} (hn : left.Nodup) (hleft : ∀ x, x ∈ left ↔ x ∈ ids ∧ x ∉ seen)
    (h : id ∈ left) : Viewed ask seen id (Flow.walk f left id) := by
  fun_induction Flow.walk f left id generalizing seen with
  | case1 left id _ hf =>
    exact .complete (by rw [hask id ((hleft id).1 h).1, hf])
  | case2 left id _ t hf ih =>
    have hid := ((hleft id).1 h).1
    have hnext : ask id = .ok (some t) := by rw [hask id hid, hf]
    have herase : ∀ x, x ∈ left.erase id ↔ x ∈ ids ∧ x ∉ id :: seen := by
      intro x
      rw [hn.mem_erase_iff, hleft, List.mem_cons]
      tauto
    by_cases ht : t ∈ id :: seen
    · have hnil : Flow.walk f (left.erase id) t = [] :=
        Flow.walk_eq_nil_iff.2 fun hmem => ((herase t).1 hmem).2 ht
      rw [hnil]
      exact .again hnext ht
    · have hmem : t ∈ left.erase id := (herase t).2 ⟨hclosed id hid t hf, ht⟩
      exact .next hnext ht (ih (hn.erase id) herase hmem)
  | case3 left id hnot => exact absurd h hnot

theorem keeps_iff_answers (hask : ∀ x ∈ ids, ask x = .ok (f x))
    (hask' : ∀ x ∈ ids, ask' x = .ok (g x)) (hclosed : ∀ x ∈ ids, ∀ t ∈ g x, t ∈ ids)
    (hpath : ∀ x ∈ path, x ∈ ids) :
    Flow.Keeps f g (Flow.distinct ids) path ↔ ∀ x ∈ path, ask' x = ask x ∨
      path.getLast? = some x ∧ ∀ t, ask' x = .ok (some t) → t ∈ path := by
  refine forall₂_congr fun x hx => ?_
  have hx := hpath x hx
  rw [hask x hx, hask' x hx, Except.ok.injEq]
  refine or_congr_right (and_congr_right fun _ => forall_congr' fun t => ?_)
  rw [Except.ok.injEq, Option.mem_def]
  refine imp_congr_right fun ht => ?_
  simp [Flow.mem_distinct, hclosed x hx t ht]

theorem viewed_tracePath {policy : Flow.Policy} {sections : List Section} {answers : Answers}
    (h : Flow.Publishable policy sections)
    (hask : ∀ x ∈ sections.map Section.id, ask x = .ok (Flow.resolveAt sections answers x))
    {first : Section} (hfirst : first ∈ sections.head?) {p : List String} :
    Viewed ask [] first.id p ↔ p = Flow.tracePath sections answers none := by
  have viewed : Viewed ask [] first.id (Flow.tracePath sections answers none) := by
    obtain ⟨rest, rfl⟩ := List.head?_eq_some_iff.1 hfirst
    exact viewed_walk hask h.resolveAt_closed (Flow.nodup_distinct _)
      (by simp [Flow.mem_distinct]) (Flow.mem_distinct.2 (by simp))
  exact ⟨fun hp => hp.unique viewed, fun hp => hp ▸ viewed⟩

end

section

variable {w : World Memory} {r : Record} {snapshot : Snapshot}

/-- What the viewer is told to follow a section. -/
def asked (w : World Memory) (slug : String) (now : Timestamp) (answers : Answers) (id : String) :
    Except Refusal (Option String) :=
  (World.run Memory.backend now (next slug id answers) w).1

theorem asked_published (h : w.store.Sound) (hr : r ∈ w.store.all)
    (hs : r.published = some snapshot) (hn : (snapshot.sections.map Section.id).Nodup)
    (now : Timestamp) (answers : Answers) (id : String)
    (hid : id ∈ snapshot.sections.map Section.id) :
    asked w r.slug now answers id = .ok (Flow.resolveAt snapshot.sections answers id) := by
  obtain ⟨sec, hsec, rfl⟩ := List.mem_map.1 hid
  have hfind := (Flow.find?_id_eq_some_iff hn).2 ⟨hsec, rfl⟩
  rw [asked, run_next h hr hs, hfind, Flow.resolveAt_id hn hsec]

theorem run_submit_object (h : w.store.Sound) (hr : r ∈ w.store.all)
    (hs : r.published = some snapshot) (hmode : snapshot.metadata.mode = .guided) {metadata : Value}
    (hnamed : (Trail.ofRaw metadata).visited = []) (now : Timestamp) (answers : Answers) :
    (World.run Memory.backend now (submit r.slug (.object answers) metadata) w).1 =
      settled w r
        { Trail.ofRaw metadata with
          visited := Flow.tracePath snapshot.sections (stored answers) none }
        (Submission.judge snapshot.sections
          (some (Flow.tracePath snapshot.sections (stored answers) none)) (stored answers))
        now := by
  have hobject : Value.object answers = .map (answers.map fun p => (.text p.1, p.2)) := rfl
  rw [hobject, run_submit h hr hs now (trailOf_guided hmode hnamed _), stored]

end

theorem inScope_eq_iff {sections : List Section} {a b : List String}
    (ha : ∀ x ∈ a, x ∈ sections.map Section.id) (hb : ∀ x ∈ b, x ∈ sections.map Section.id) :
    Submission.inScope sections (some a) = Submission.inScope sections (some b) ↔
      ∀ x, x ∈ a ↔ x ∈ b := by
  have mem : ∀ {c : List String} {s : Section}, s ∈ Submission.inScope sections (some c) ↔
      s ∈ sections ∧ s.id ∈ c := by
    intro c s
    simp [Submission.inScope]
  constructor
  · intro h x
    constructor
    · intro hx
      obtain ⟨s, hs, rfl⟩ := List.mem_map.1 (ha x hx)
      exact (mem.1 (h ▸ mem.2 ⟨hs, hx⟩)).2
    · intro hx
      obtain ⟨s, hs, rfl⟩ := List.mem_map.1 (hb x hx)
      exact (mem.1 (h ▸ mem.2 ⟨hs, hx⟩)).2
  · intro h
    exact List.filter_congr fun s _ => by simp [h]

variable {settings : Settings} {start s : System} {past : List System}

/-- The viewer is led along one path.  A submission that names no sections is judged on the path
of the stored answers, which is the viewer's exactly when the stored answers keep to it; the
sections that are judged are the viewer's exactly when the two paths have the same sections. -/
theorem trail_is_path_iff (hstart : start.Empty) (run : Run settings start past s) {r : Record}
    (hr : r ∈ s.store.all) {snapshot : Snapshot} (hs : r.published = some snapshot)
    (hmode : snapshot.metadata.mode = .guided) {metadata : Value}
    (hnamed : (Trail.ofRaw metadata).visited = []) (now : Timestamp) (answers : Answers) :
    ∃ first ∈ snapshot.sections.head?, ∃ path visited,
      (∀ p, Viewed (asked s.world r.slug now answers) [] first.id p ↔ p = path) ∧
      (World.run Memory.backend now (submit r.slug (.object answers) metadata) s.world).1 =
        settled s.world r { Trail.ofRaw metadata with visited := visited }
          (Submission.judge snapshot.sections (some visited) (stored answers)) now ∧
      (visited = path ↔ ∀ id ∈ path,
        asked s.world r.slug now (stored answers) id = asked s.world r.slug now answers id ∨
          path.getLast? = some id ∧
            ∀ t, asked s.world r.slug now (stored answers) id = .ok (some t) → t ∈ path) ∧
      (Submission.inScope snapshot.sections (some visited) =
        Submission.inScope snapshot.sections (some path) ↔ visited.Perm path) := by
  have hsound := (run.guarded hstart).records.sound
  have h := run.publishable hstart hr hs
  have hask := asked_published hsound hr hs h.sectionIds now
  have hsubset := @Flow.tracePath_subset snapshot.sections
  obtain ⟨first, rest, hcons⟩ := List.exists_cons_of_ne_nil h.nonempty
  have hfirst : first ∈ snapshot.sections.head? := by rw [hcons, List.head?_cons, Option.mem_def]
  refine ⟨first, hfirst, Flow.tracePath snapshot.sections answers none,
    Flow.tracePath snapshot.sections (stored answers) none, ?path,
    run_submit_object hsound hr hs hmode hnamed now answers, ?agree, ?scope⟩
  case path => exact fun p => viewed_tracePath h (hask answers) hfirst
  case agree =>
    rw [Flow.tracePath_eq_iff]
    exact keeps_iff_answers (hask answers) (hask (stored answers)) h.resolveAt_closed
      (hsubset answers)
  case scope =>
    rw [inScope_eq_iff (hsubset _) (hsubset _)]
    exact (List.perm_ext_iff_of_nodup (Flow.nodup_tracePath _) (Flow.nodup_tracePath _)).symm

def sent : Answers := [("plan", .text "Pro ")]

theorem trail_is_path_publication :
    ∃ first ∈ plans.sections.head?, ∃ path visited,
      (∀ p, Viewed (asked publication.world "intake-2" moment sent) [] first.id p ↔ p = path) ∧
      (World.run Memory.backend moment (submit "intake-2" (.object sent) .null)
        publication.world).1 =
        settled publication.world plansRecord { Trail.ofRaw .null with visited := visited }
          (Submission.judge plans.sections (some visited) (stored sent)) moment := by
  obtain ⟨past, run⟩ := run_publication
  have named : (Trail.ofRaw .null).visited = [] := rfl
  obtain ⟨first, hfirst, path, visited, hpath, hsubmit, -⟩ :=
    trail_is_path_iff ⟨rfl, rfl⟩ run mem_publication rfl rfl named moment sent
  exact ⟨first, hfirst, path, visited, hpath, hsubmit⟩

/-- The plan is stored without its blank, and no longer is the one that the rule waits for. -/
theorem sent_leaves_trail :
    ∃ past, Run ⟨{}, false, .usual⟩ opening past publication ∧
      Viewed (asked publication.world "intake-2" moment sent) [] "start" ["start", "pro"] ∧
      ∃ submission,
        (World.run Memory.backend moment (submit "intake-2" (.object sent) .null)
          publication.world).1 = .ok submission ∧
        submission.trail.visited = ["start", "done"] := by
  obtain ⟨past, run⟩ := run_publication
  have hsound := (run.guarded ⟨rfl, rfl⟩).records.sound
  have h := run.publishable ⟨rfl, rfl⟩ mem_publication rfl
  have hask := asked_published hsound mem_publication rfl h.sectionIds moment sent
  have viewed : Flow.tracePath plans.sections sent none = ["start", "pro"] := by cbv
  have named : (Trail.ofRaw .null).visited = [] := rfl
  have traced : Flow.tracePath plans.sections (stored sent) none = ["start", "done"] := by cbv
  refine ⟨past, run, ?_, ?_⟩
  · rw [← viewed]
    exact (viewed_tracePath h hask rfl).2 rfl
  · have hsubmit := run_submit_object hsound mem_publication rfl rfl named moment sent
    have valid : (Submission.judge plans.sections (some ["start", "done"]) (stored sent)).valid =
        true := by cbv
    have hsections : (plans.freeze "intake-2" moment).sections = plans.sections := rfl
    rw [hsections, traced, settled, if_pos valid] at hsubmit
    exact ⟨_, hsubmit, rfl⟩

theorem trail_of_tidy (hstart : start.Empty) (run : Run settings start past s) {r : Record}
    (hr : r ∈ s.store.all) {snapshot : Snapshot} (hs : r.published = some snapshot)
    (hmode : snapshot.metadata.mode = .guided) {metadata : Value}
    (hnamed : (Trail.ofRaw metadata).visited = []) (now : Timestamp) {answers : Answers}
    (tidy : Tidy answers) {submission : Submission}
    (hok : (World.run Memory.backend now (submit r.slug (.object answers) metadata) s.world).1 =
      .ok submission) :
    ∃ first ∈ snapshot.sections.head?,
      Viewed (asked s.world r.slug now answers) [] first.id submission.trail.visited := by
  have hsound := (run.guarded hstart).records.sound
  have h := run.publishable hstart hr hs
  obtain ⟨first, rest, hcons⟩ := List.exists_cons_of_ne_nil h.nonempty
  have hfirst : first ∈ snapshot.sections.head? := by rw [hcons, List.head?_cons, Option.mem_def]
  have hask := asked_published hsound hr hs h.sectionIds now answers
  refine ⟨first, hfirst, (viewed_tracePath h hask hfirst).2 ?_⟩
  rw [run_submit_object hsound hr hs hmode hnamed, tracePath_stored tidy, settled] at hok
  split_ifs at hok
  rw [← Except.ok.inj hok]

end IntakeForms.Service
