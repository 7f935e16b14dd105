import IntakeForms.Proofs.Http.Bodies
import IntakeForms.Proofs.Http.Responses
import IntakeForms.Proofs.RateLimit.Readmission
import IntakeForms.Store.Memory

/-! What the limit does to requests.  It counts the submissions that can be read, each under the
address of its client, and no other request; only one that it refuses is told to come back later.
Coming back after the pause that was told is enough exactly if the pause lost nothing when it was
rounded to whole seconds. -/

namespace IntakeForms.Http

open RateLimit

/-- A submission that can be read. -/
def Request.submits (b : Json.Bounds) (r : Request) : Bool :=
  match target r.method (Percent.decode r.path), (r.payload b).required? SubmitBody.shape with
  | .found (.submit _), some (.ok _) => true
  | _, _ => false

def Request.client (r : Request) : String := clientAddress r.header? r.origin

namespace Server

variable {σ τ α : Type} {setup : Setup σ τ}

/-- Whatever is done to the world, the limiter stays as it is and nobody is sent away. -/
structure Unlimited (serving : Server σ τ → Response × Server σ τ) : Prop where
  limiter : ∀ s, (serving s).2.limiter = s.limiter
  status : ∀ s, (serving s).1.status ≠ 429

theorem unlimited_act (setup : Setup σ τ) (now : Timestamp) {status : Nat} (h : status ≠ 429)
    (write? : α → Except Obstacle Value) (action : Action α) :
    Unlimited (act setup now status write? action) where
  limiter _ := rfl
  status s := by
    rw [act_fst]
    cases (s.world.run setup.backend now action).1 with
    | ok a =>
      rw [Response.status_ofWritten]
      split <;> omega
    | error e =>
      intro heq
      have hmem := Response.status_ofRefusal_mem e
      simp [heq] at hmem

theorem unlimited_whenRead (limits : Limits) (p : Parsed α)
    {k : α → Server σ τ → Response × Server σ τ} (h : ∀ a, p = .ok a → Unlimited (k a)) :
    Unlimited (whenRead limits p k) := by
  cases p with
  | ok a => exact h a rfl
  | problems ps =>
    refine ⟨fun _ => rfl, fun _ => ?_⟩
    change (Response.ofProblems limits ps).status ≠ 429
    rw [Response.status_ofProblems]
    split <;> omega
  | stuck => exact ⟨fun _ => rfl, fun _ => by simp [whenRead, Response.internalError]⟩

theorem unlimited_whenBody (limits : Limits) (p : Option (Parsed α))
    {k : α → Server σ τ → Response × Server σ τ} (h : ∀ a, p = some (.ok a) → Unlimited (k a)) :
    Unlimited (whenBody limits p k) := by
  cases p with
  | some p => exact unlimited_whenRead limits p fun a ha => h a (congrArg some ha)
  | none => exact ⟨fun _ => rfl, fun _ => by simp [whenBody, Response.unreadableBody]⟩

section

variable [OfNat τ 0] [Add τ] [Sub τ] [LE τ] [LT τ] [DecidableLE τ] [DecidableLT τ]

theorem unlimited_serve (setup : Setup σ τ) (m : Moment τ) (r : Request) (route : Route)
    (h : ∀ slug b, route = .submit slug →
      (r.payload setup.reader).required? SubmitBody.shape ≠ some (.ok b)) :
    Unlimited (serve setup m r route) := by
  cases route with
  | submit slug => exact unlimited_whenBody _ _ fun b hb => absurd hb (h slug b rfl)
  | health => exact ⟨fun _ => rfl, fun _ => by simp [serve, Response.ofValue]⟩
  | manual => exact ⟨fun _ => rfl, fun _ => by simp [serve, Response.ofValue]⟩
  | create | saveDraft | generate | apply | next =>
    exact unlimited_whenBody _ _ fun _ _ => unlimited_act setup _ (by omega) _ _
  | submissions => exact unlimited_whenRead _ _ fun _ _ => unlimited_act setup _ (by omega) _ _
  | _ => exact unlimited_act setup _ (by omega) _ _

theorem unlimited_answer (setup : Setup σ τ) (m : Moment τ) {r : Request}
    (h : r.submits setup.reader = false) : Unlimited (answer setup m r) := by
  cases htarget : target r.method (Percent.decode r.path) with
  | found route =>
    have hserve := unlimited_serve setup m r route fun slug b hroute hbody => by
      simp [Request.submits, htarget, hroute, hbody] at h
    exact ⟨fun s => by simpa [answer, htarget] using hserve.limiter s,
      fun s => by simpa [answer, htarget] using hserve.status s⟩
  | wrongMethod | unknown | moved path =>
    exact ⟨fun s => by simp [answer, htarget], fun s => by simp [answer, htarget]⟩

theorem answer_submission (setup : Setup σ τ) (m : Moment τ) {r : Request}
    (h : r.submits setup.reader = true) (s : Server σ τ) :
    (answer setup m r s).2.limiter = (check setup.limit m.tick r.client s.limiter).2 ∧
    ((answer setup m r s).1.status = 429 ↔
      (check setup.limit m.tick r.client s.limiter).1.allowed = false) ∧
    ((answer setup m r s).1.status = 429 → (answer setup m r s).1.retryAfter = some (waitSeconds
      (setup.exact (check setup.limit m.tick r.client s.limiter).1.retryAfter))) := by
  unfold Request.submits at h
  split at h
  · next slug b htarget hbody =>
    have hanswer : answer setup m r s = submit setup m r slug b s := by
      simp only [answer, htarget, serve, hbody]
      rfl
    rw [hanswer, submit, Request.client]
    cases hallowed : (check setup.limit m.tick (clientAddress r.header? r.origin)
        s.limiter).1.allowed with
    | false =>
      simp only [hallowed]
      exact ⟨rfl, by simp [Response.tooMany], fun _ => rfl⟩
    | true =>
      have hact := unlimited_act setup m.now (show 201 ≠ 429 by omega) (.ok <| writeId ·)
        (Service.submit slug (.object b.answers) b.metadataValue)
      simp only [hallowed, if_true]
      refine ⟨hact.limiter _, ?_, fun heq => absurd heq (hact.status _)⟩
      simpa using hact.status _
  · cases h

theorem limiter_handle (setup : Setup σ τ) (m : Moment τ) (r : Request) (s : Server σ τ) :
    (handle setup m r s).2.limiter =
      if r.submits setup.reader then (check setup.limit m.tick r.client s.limiter).2
      else s.limiter := by
  change (answer setup m r (s.identify setup r).2).2.limiter = _
  cases h : r.submits setup.reader with
  | true => rw [(answer_submission setup m h _).1, identify_limiter, if_pos rfl]
  | false => rw [(unlimited_answer setup m h).limiter, identify_limiter, if_neg (by simp)]

theorem status_handle (setup : Setup σ τ) (m : Moment τ) (r : Request) (s : Server σ τ) :
    ((handle setup m r s).1.status = 429 ↔
      r.submits setup.reader = true ∧
        (check setup.limit m.tick r.client s.limiter).1.allowed = false) ∧
    ((handle setup m r s).1.status = 429 → (handle setup m r s).1.retryAfter =
      some (waitSeconds
        (setup.exact (check setup.limit m.tick r.client s.limiter).1.retryAfter))) := by
  rw [(handle_fst setup m r s).1, (handle_fst setup m r s).2]
  cases h : r.submits setup.reader with
  | true =>
    have hanswer := answer_submission setup m h (s.identify setup r).2
    rw [identify_limiter] at hanswer
    simpa using hanswer.2
  | false => simp [(unlimited_answer setup m h).status]

end

/-- A request and the moment at which it comes. -/
structure Visit (τ : Type) where
  moment : Moment τ
  request : Request

def Visit.arrival (v : Visit τ) : Arrival τ := ⟨v.moment.tick, v.request.client⟩

def counted (b : Json.Bounds) (history : List (Visit τ)) : List (Arrival τ) :=
  (history.filter (·.request.submits b)).map Visit.arrival

variable {b : Json.Bounds}

theorem counted_append (first rest : List (Visit τ)) :
    counted b (first ++ rest) = counted b first ++ counted b rest := by
  rw [counted, List.filter_append, List.map_append]
  rfl

theorem counted_singleton (v : Visit τ) :
    counted b [v] = if v.request.submits b then [v.arrival] else [] := by
  cases h : v.request.submits b <;> simp [counted, h]

theorem counted_sorted [LE τ] {history : List (Visit τ)}
    (h : history.Pairwise (·.moment.tick ≤ ·.moment.tick)) :
    (counted b history).Pairwise (·.time ≤ ·.time) :=
  List.pairwise_map.2 (h.filter _)

section

variable [AddCommGroup τ] [LinearOrder τ]

/-- A server after a history of requests. -/
def after (setup : Setup σ τ) (s : Server σ τ) (history : List (Visit τ)) : Server σ τ :=
  history.foldl (fun s v => (handle setup v.moment v.request s).2) s

/-- The response to a request that comes after a history. -/
def response (setup : Setup σ τ) (s : Server σ τ) (history : List (Visit τ)) (v : Visit τ) :
    Response :=
  (handle setup v.moment v.request (after setup s history)).1

theorem limiter_after {s : Server σ τ} {begin : τ} (hs : s.limiter = start begin)
    (history : List (Visit τ)) :
    (after setup s history).limiter =
      RateLimit.after setup.limit begin (counted setup.reader history) := by
  induction history using List.reverseRecOn with
  | nil => exact hs
  | append_singleton history v ih =>
    have hconcat : after setup s (history ++ [v]) =
        (handle setup v.moment v.request (after setup s history)).2 := List.foldl_concat ..
    rw [hconcat, limiter_handle, ih, counted_append, counted_singleton]
    cases h : v.request.submits setup.reader with
    | true => simp [RateLimit.after_concat, Visit.arrival]
    | false => simp

theorem status_response {s : Server σ τ} {begin : τ} (hs : s.limiter = start begin)
    (history : List (Visit τ)) (v : Visit τ) :
    ((response setup s history v).status = 429 ↔ v.request.submits setup.reader = true ∧
      (decision setup.limit begin (counted setup.reader history) v.arrival).allowed = false) ∧
    ((response setup s history v).status = 429 → (response setup s history v).retryAfter =
      some (waitSeconds (setup.exact
        (decision setup.limit begin (counted setup.reader history) v.arrival).retryAfter))) := by
  have hhandle := status_handle setup v.moment v.request (after setup s history)
  rw [limiter_after hs] at hhandle
  exact hhandle

end

/-- `v` is the next request of the client of `u`, as far as the limiter sees requests. -/
structure Next (b : Json.Bounds) (history : List (Visit ℚ)) (u : Visit ℚ)
    (between : List (Visit ℚ)) (v : Visit ℚ) : Prop where
  inOrder : (history ++ u :: (between ++ [v])).Pairwise (·.moment.tick ≤ ·.moment.tick)
  others : ∀ x ∈ between, x.request.submits b = true → x.request.client ≠ u.request.client
  client : v.request.client = u.request.client

theorem Next.here {history : List (Visit ℚ)} {u : Visit ℚ}
    (h : (history ++ [u]).Pairwise (·.moment.tick ≤ ·.moment.tick)) {wait : ℚ} (hwait : 0 ≤ wait) :
    Next b history u [] ⟨⟨u.moment.now, u.moment.tick + wait⟩, u.request⟩ where
  inOrder := by
    obtain ⟨hs, -, hle⟩ := List.pairwise_append.1 h
    have hlater : u.moment.tick ≤ u.moment.tick + wait := le_add_of_nonneg_right hwait
    refine List.pairwise_append.2 ⟨hs, by simpa using hlater, fun x hx y hy => ?_⟩
    have hxu := hle x hx u List.mem_cons_self
    rcases List.mem_cons.1 hy with rfl | hy
    · exact hxu
    · rw [List.mem_singleton.1 hy]
      exact hxu.trans hlater
  others := by simp
  client := rfl

section

variable {setup : Setup σ ℚ} {s : Server σ ℚ} {begin : ℚ} {history : List (Visit ℚ)} {u : Visit ℚ}

theorem exists_pause (hexact : ∀ t, setup.exact t = t) (hmax : 1 ≤ setup.limit.max)
    (hs : s.limiter = start begin)
    (h : (history ++ [u]).Pairwise (·.moment.tick ≤ ·.moment.tick))
    (hsent : (response setup s history u).status = 429) :
    ∃ pause : ℚ, 0 < pause ∧
      (response setup s history u).retryAfter = some (waitSeconds pause) ∧
      ∀ between v, Next setup.reader history u between v →
        ((response setup s (history ++ u :: between) v).status = 429 ↔
          v.request.submits setup.reader = true ∧ v.moment.tick < u.moment.tick + pause) := by
  obtain ⟨hsubmits, hdenied⟩ := (status_response hs history u).1.1 hsent
  have hretry := (status_response hs history u).2 hsent
  have hu : counted setup.reader [u] = [u.arrival] := by rw [counted_singleton, if_pos hsubmits]
  have hsorted : (counted setup.reader history ++ [u.arrival]).Pairwise (·.time ≤ ·.time) := by
    rw [← hu, ← counted_append]
    exact counted_sorted h
  obtain ⟨oldest, hfull⟩ := exists_full hmax hsorted hdenied
  refine ⟨oldest + setup.limit.window - u.moment.tick, sub_pos.2 hfull.inside, ?_, ?_⟩
  · rw [hretry, hexact, hfull.retryAfter]
    rfl
  · intro between v hnext
    have hcounted : counted setup.reader (history ++ u :: between) =
        counted setup.reader history ++ u.arrival :: counted setup.reader between := by
      rw [← List.singleton_append, counted_append, counted_append, hu]
      rfl
    rw [(status_response hs _ v).1, hcounted, add_sub_cancel]
    refine and_congr_right fun hv => ?_
    have hlast : counted setup.reader [v] = [v.arrival] := by rw [counted_singleton, if_pos hv]
    have hall := counted_sorted (b := setup.reader) hnext.inOrder
    rw [← List.singleton_append, counted_append, counted_append, counted_append, hu, hlast] at hall
    have hothers : ∀ c ∈ counted setup.reader between, c.key ≠ u.arrival.key := by
      intro c hc
      obtain ⟨x, hx, rfl⟩ := List.mem_map.1 hc
      exact hnext.others x (List.mem_of_mem_filter hx) (List.mem_filter.1 hx).2
    have hallowed := hfull.allowed_iff hall hdenied hothers hnext.client
    rw [← Bool.not_eq_true, hallowed]
    exact not_le

/-- Coming back after the seconds that were told is enough exactly if rounding took nothing off
the pause; half a second more always is. -/
theorem waiting_enough_iff (hexact : ∀ t, setup.exact t = t) (hmax : 1 ≤ setup.limit.max)
    (hs : s.limiter = start begin)
    (h : (history ++ [u]).Pairwise (·.moment.tick ≤ ·.moment.tick))
    (hsent : (response setup s history u).status = 429) :
    ∃ pause : ℚ, 0 < pause ∧
      (response setup s history u).retryAfter = some (waitSeconds pause) ∧
      (∀ between v, Next setup.reader history u between v →
        ((response setup s (history ++ u :: between) v).status = 429 ↔
          v.request.submits setup.reader = true ∧ v.moment.tick < u.moment.tick + pause)) ∧
      ((∀ between v, Next setup.reader history u between v →
          u.moment.tick + waitSeconds pause ≤ v.moment.tick →
          (response setup s (history ++ u :: between) v).status ≠ 429) ↔
        pause ≤ 1 ∨ Int.fract pause = 0 ∨ 1 / 2 < Int.fract pause ∨
          Int.fract pause = 1 / 2 ∧ Odd ⌊pause⌋) ∧
      ∀ between v, Next setup.reader history u between v →
        u.moment.tick + waitSeconds pause + 1 / 2 ≤ v.moment.tick →
        (response setup s (history ++ u :: between) v).status ≠ 429 := by
  obtain ⟨pause, hpause, hretry, hpast⟩ := exists_pause hexact hmax hs h hsent
  have hsubmits := ((status_response hs history u).1.1 hsent).1
  have hhalf := le_waitSeconds_add_half hpause.le
  refine ⟨pause, hpause, hretry, hpast, ?_, fun between v hnext hlate hagain => ?_⟩
  · rw [← le_roundRat_iff hpause.le, ← le_waitSeconds_iff]
    constructor
    · intro henough
      -- the same request again as soon as the seconds are over
      have hseconds : (0 : ℚ) ≤ waitSeconds pause := by
        exact_mod_cast zero_le_one.trans (le_max_left 1 (roundRat pause))
      have hnext := Next.here (b := setup.reader) h hseconds
      have hnot := mt (hpast _ _ hnext).2 (henough _ _ hnext le_rfl)
      exact not_lt.1 fun hshort => hnot ⟨hsubmits, add_lt_add_right hshort u.moment.tick⟩
    · intro hle between v hnext hlate hagain
      have hshort := ((hpast between v hnext).1 hagain).2
      linarith
  · have hshort := ((hpast between v hnext).1 hagain).2
    linarith

end

def noAnswers : String := "\x7b\"answers\": \x7b\x7d\x7d"

def sending (tick : ℚ) : Visit ℚ where
  moment := ⟨⟨2024, 5, 1, 8, 0, 0, 0, some 0⟩, tick⟩
  request :=
    { method := "POST", path := "/v1/public/intakes/talk/submissions"
      headers := [("content-type", "application/json")], body := noAnswers }

def shop : Setup Memory ℚ :=
  ⟨Memory.backend, ⟨{}, false, .usual⟩, .ofWindow 1 (5 / 2), id, toString⟩

theorem submits_sending (tick : ℚ) : (sending tick).request.submits shop.reader = true := by
  have htarget : target "POST" (Percent.decode "/v1/public/intakes/talk/submissions") =
      .found (.submit "talk") := by decide +kernel
  have hbytes : Text.ofBytes? noAnswers.toUTF8.toList = some (noAnswers.toList.map .char) := by
    decide +kernel
  have hjson : readsAs shop.reader noAnswers (.object [("answers", .map [])]) = true := by
    decide +kernel
  have hbody : (sending tick).request.payload shop.reader =
      .document (.object [("answers", .map [])]) :=
    payload_of_json (by decide +kernel) hbytes hjson
  have hread : ((sending tick).request.payload shop.reader).required? SubmitBody.shape =
      some (.ok ⟨[], none⟩) := by
    rw [hbody]
    rfl
  rw [Request.submits, hread]
  simp [sending, htarget]

theorem arrival_sending (tick : ℚ) : (sending tick).arrival = ⟨tick, "unknown"⟩ := rfl

def opening : Server Memory ℚ :=
  ⟨⟨{ ids := ⟨toString, 0⟩ }, ⟨"", .absent, []⟩, ⟨"", [], 0⟩, []⟩, start 0, 0⟩

theorem limiter_opening : opening.limiter = start 0 := rfl

theorem status_shop (history : List ℚ) (tick : ℚ) :
    (response shop opening (history.map sending) (sending tick)).status = 429 ↔
      (decision (.ofWindow 1 (5 / 2)) 0 (history.map fun t => ⟨t, "unknown"⟩)
        ⟨tick, "unknown"⟩).allowed = false := by
  have hcounted : counted shop.reader (history.map sending) =
      history.map fun t => ⟨t, "unknown"⟩ := by
    induction history with
    | nil => rfl
    | cons t rest ih =>
      rw [List.map_cons, ← List.singleton_append, counted_append, counted_singleton,
        if_pos (submits_sending t), ih]
      rfl
  rw [(status_response limiter_opening _ _).1, hcounted, arrival_sending]
  exact and_iff_right (submits_sending tick)

theorem waiting_enough_iff_shop :
    (response shop opening [sending 0] (sending 0)).status = 429 ∧
      ∃ pause, (response shop opening [sending 0] (sending 0)).retryAfter =
          some (waitSeconds pause) ∧
        ∀ tick, 0 ≤ tick →
          ((response shop opening [sending 0, sending 0] (sending tick)).status = 429 ↔
            tick < pause) := by
  have hsent : (response shop opening [sending 0] (sending 0)).status = 429 :=
    (status_shop [0] 0).2 (by decide +kernel)
  have hexact : ∀ t, shop.exact t = t := fun _ => rfl
  have hmax : 1 ≤ shop.limit.max := by decide
  obtain ⟨pause, -, hretry, hpast, -⟩ :=
    waiting_enough_iff hexact hmax limiter_opening (by simp) hsent
  refine ⟨hsent, pause, hretry, fun tick htick => ?_⟩
  have hnext : Next shop.reader [sending 0] (sending 0) [] (sending tick) :=
    ⟨by simpa [sending] using htick, by simp, rfl⟩
  refine (hpast [] (sending tick) hnext).trans ?_
  rw [and_iff_right (submits_sending tick)]
  simp [sending]

/-- The client that was told to wait for two seconds is sent away after two seconds. -/
theorem told_two_sent_away :
    (response shop opening [sending 0] (sending 0)).status = 429 ∧
      (response shop opening [sending 0] (sending 0)).retryAfter = some 2 ∧
      Next shop.reader [sending 0] (sending 0) [] (sending (0 + 2)) ∧
      (response shop opening [sending 0, sending 0] (sending (0 + 2))).status = 429 := by
  have hsent : (response shop opening [sending 0] (sending 0)).status = 429 :=
    (status_shop [0] 0).2 (by decide +kernel)
  refine ⟨hsent, ?_, Next.here (by simp) (by norm_num), (status_shop [0, 0] _).2 (by decide +kernel)⟩
  rw [(status_response limiter_opening _ _).2 hsent, counted_singleton,
    if_pos (submits_sending 0), arrival_sending]
  decide +kernel

end Server

end IntakeForms.Http
