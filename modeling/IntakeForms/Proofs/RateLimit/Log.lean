import IntakeForms.RateLimit
import Mathlib

/-! A limit on requests is a count over a complete log.  The limiter forgets requests as
they leave the window and drops keys from time to time; on exact times that never run
backwards, nobody can tell it from one that remembers every request it let through. -/

namespace IntakeForms.RateLimit

section

variable {τ : Type} [LinearOrder τ] {cutoff later : τ} {times held : List τ}

theorem live_of_sorted (h : times.Pairwise (· ≤ ·)) (cutoff : τ) :
    live cutoff times = times.filter (cutoff < ·) := by
  induction times with
  | nil => rfl
  | cons t rest ih =>
    rw [List.pairwise_cons] at h
    by_cases ht : t ≤ cutoff
    · rw [List.filter_cons_of_neg (by simpa using ht), ← ih h.2, live, live,
        List.dropWhile_cons_of_pos (by simpa using ht)]
    · have hrest : ∀ u ∈ t :: rest, cutoff < u := by
        intro u hu
        rcases List.mem_cons.1 hu with rfl | hu
        · exact not_le.1 ht
        · exact (not_le.1 ht).trans_le (h.1 u hu)
      rw [live, List.dropWhile_cons_of_neg (by simpa using ht),
        List.filter_eq_self.2 (by simpa using hrest)]

def Keeps (cutoff : τ) (times held : List τ) : Prop :=
  ∃ old, times = old ++ held ∧ ∀ t ∈ old, t ≤ cutoff

namespace Keeps

theorem mono (h : Keeps cutoff times held) (hle : cutoff ≤ later) : Keeps later times held := by
  obtain ⟨old, heq, hold⟩ := h
  exact ⟨old, heq, fun t ht => (hold t ht).trans hle⟩

theorem live (h : Keeps cutoff times held) : Keeps cutoff times (live cutoff held) := by
  obtain ⟨old, heq, hold⟩ := h
  refine ⟨old ++ held.takeWhile (· ≤ cutoff), ?_, fun t ht => ?_⟩
  · rw [List.append_assoc, RateLimit.live, List.takeWhile_append_dropWhile, heq]
  · rcases List.mem_append.1 ht with ht | ht
    · exact hold t ht
    · simpa using List.mem_takeWhile_imp ht

theorem append (h : Keeps cutoff times held) (more : List τ) :
    Keeps cutoff (times ++ more) (held ++ more) := by
  obtain ⟨old, heq, hold⟩ := h
  exact ⟨old, by rw [heq, List.append_assoc], hold⟩

theorem live_eq (h : Keeps cutoff times held) (hs : times.Pairwise (· ≤ ·)) :
    RateLimit.live cutoff held = times.filter (cutoff < ·) := by
  obtain ⟨old, rfl, hold⟩ := h
  have hnone : old.filter (cutoff < ·) = [] := by
    simpa using hold
  rw [List.filter_append, hnone, List.nil_append, live_of_sorted (List.pairwise_append.1 hs).2.1]

end Keeps

end

/-- A request of a key at a time. -/
structure Arrival (τ : Type) where
  time : τ
  key : String

section

variable {τ : Type}

/-- The times at which requests of a key were let through. -/
def admitted (key : String) (log : List (Arrival τ × Decision τ)) : List τ :=
  (log.filter fun x => x.2.allowed ∧ x.1.key = key).map fun x => x.1.time

/-- How many requests of a key were let through within a span of time. -/
def passed (key : String) (span : Set τ) [DecidablePred (· ∈ span)]
    (log : List (Arrival τ × Decision τ)) : Nat :=
  (admitted key log).countP (· ∈ span)

theorem admitted_snoc (key : String) (log : List (Arrival τ × Decision τ))
    (x : Arrival τ × Decision τ) :
    admitted key (log ++ [x]) =
      admitted key log ++ if x.2.allowed ∧ x.1.key = key then [x.1.time] else [] := by
  rw [admitted, List.filter_append, List.map_append, ← admitted]
  by_cases h : x.2.allowed ∧ x.1.key = key <;> simp [h]

theorem exists_of_mem_admitted {key : String} {log : List (Arrival τ × Decision τ)} {t : τ}
    (h : t ∈ admitted key log) : ∃ x ∈ log, x.1.time = t := by
  obtain ⟨x, hx, rfl⟩ := List.mem_map.1 h
  exact ⟨x, List.mem_of_mem_filter hx, rfl⟩

theorem admitted_sorted [LinearOrder τ] {log : List (Arrival τ × Decision τ)}
    (h : log.Pairwise fun x y => x.1.time ≤ y.1.time) (key : String) :
    (admitted key log).Pairwise (· ≤ ·) :=
  List.pairwise_map.2 (h.filter _)

end

section

variable {τ : Type} [AddCommGroup τ] [LinearOrder τ] {l : Limit τ} {now : τ} {s : State τ}
  {log : List (Arrival τ × Decision τ)}

def held (key : String) (s : State τ) : List τ := (Entries.get? key s.hits).getD []

def ruling (l : Limit τ) (now : τ) (times : List τ) : Decision τ :=
  let resetAt := times.head?.getD now + l.window
  if l.max ≤ times.length then ⟨false, 0, l.max, resetAt, larger 0 (resetAt - now)⟩
  else ⟨true, l.max - (times.length + 1), l.max, resetAt, 0⟩

theorem ruling_allowed (l : Limit τ) (now : τ) (times : List τ) :
    (ruling l now times).allowed = true ↔ (times.length : Int) < l.max := by
  unfold ruling
  split <;> simp_all

theorem ruling_remaining {times : List τ} (h : (ruling l now times).allowed = true) :
    (ruling l now times).remaining = l.max - times.length - 1 := by
  rw [ruling_allowed] at h
  rw [ruling, if_neg (by omega)]
  change l.max - (times.length + 1) = _
  omega

theorem nodup_sweep (h : (Entries.keys s.hits).Nodup) :
    (Entries.keys (sweep l now s).hits).Nodup := by
  rw [sweep]
  split
  · exact h
  · refine List.Nodup.sublist (List.filter_sublist.map Prod.fst) ?_
    simpa [Entries.keys, Function.comp_def] using h

theorem held_sweep (h : (Entries.keys s.hits).Nodup) (key : String) :
    held key (sweep l now s) = held key s ∨
      held key (sweep l now s) = live (now - l.window) (held key s) := by
  rw [sweep]
  split
  · exact .inl rfl
  · right
    have hn : (Entries.keys (s.hits.map fun e => (e.1, live (now - l.window) e.2))).Nodup := by
      simpa [Entries.keys, Function.comp_def] using h
    have hget := Entries.get?_filter hn (!·.isEmpty) key
    rw [Entries.get?_map] at hget
    rw [held, hget, held]
    cases Entries.get? key s.hits with
    | none => rfl
    | some times => cases hlive : live (now - l.window) times <;> simp [Option.filter, hlive]

theorem live_held_sweep (h : (Entries.keys s.hits).Nodup) (key : String) :
    live (now - l.window) (held key (sweep l now s)) = live (now - l.window) (held key s) := by
  rcases held_sweep h key with heq | heq
  · rw [heq]
  · rw [heq, live, live, List.dropWhile_idempotent]

/-- A request comes to a ruling on what is held of its key in the window, and is held itself
if it is let through. -/
theorem check_eq (h : (Entries.keys s.hits).Nodup) (key : String) :
    check l now key s =
      let times := live (now - l.window) (held key s)
      let decision := ruling l now times
      (decision, { sweep l now s with
        hits := Entries.put key (times ++ if decision.allowed then [now] else [])
          (sweep l now s).hits }) := by
  rw [← live_held_sweep h, held, check]
  dsimp only
  generalize live (now - l.window) ((Entries.get? key (sweep l now s).hits).getD []) = times
  rw [ruling]
  by_cases hmax : l.max ≤ times.length
  · simp [hmax]
  · simp [hmax]

theorem check_fst (h : (Entries.keys s.hits).Nodup) (key : String) :
    (check l now key s).1 = ruling l now (live (now - l.window) (held key s)) := by
  rw [check_eq h]

theorem held_check (h : (Entries.keys s.hits).Nodup) (key other : String) :
    held other (check l now key s).2 =
      if key = other then live (now - l.window) (held key s) ++
        if (check l now key s).1.allowed then [now] else []
      else held other (sweep l now s) := by
  rw [check_eq h, held, Entries.get?_put]
  split
  · rfl
  · rfl

theorem nodup_check (h : (Entries.keys s.hits).Nodup) (key : String) :
    (Entries.keys (check l now key s).2.hits).Nodup := by
  rw [check_eq h]
  exact Entries.keys_put_nodup (nodup_sweep h)

end

section

variable {τ : Type} [AddCommGroup τ] [LinearOrder τ]

def replay (l : Limit τ) : State τ → List (Arrival τ) → List (Arrival τ × Decision τ)
  | _, [] => []
  | s, a :: rest =>
    (a, (check l a.time a.key s).1) :: replay l (check l a.time a.key s).2 rest

/-- The same from the state that a limiter begins with. -/
def transcript (l : Limit τ) (begin : τ) (arrivals : List (Arrival τ)) :
    List (Arrival τ × Decision τ) :=
  replay l (start begin) arrivals

/-- Decided by what the log tells of the window that ends with the request. -/
structure Counted (l : Limit τ) (log : List (Arrival τ × Decision τ))
    (x : Arrival τ × Decision τ) : Prop where
  allowed : x.2.allowed = true ↔
    (passed x.1.key (Set.Ioc (x.1.time - l.window) x.1.time) log : Int) < l.max
  remaining : x.2.allowed = true → x.2.remaining =
    l.max - passed x.1.key (Set.Ioc (x.1.time - l.window) x.1.time) log - 1

/-- The state holds what the log has of the window, and the clock is not behind the log. -/
structure Remembers (l : Limit τ) (now : τ) (log : List (Arrival τ × Decision τ)) (s : State τ) :
    Prop where
  nodup : (Entries.keys s.hits).Nodup
  sorted : log.Pairwise fun x y => x.1.time ≤ y.1.time
  past : ∀ x ∈ log, x.1.time ≤ now
  keeps : ∀ key, Keeps (now - l.window) (admitted key log) (held key s)

variable {l : Limit τ} {now : τ} {s : State τ} {log : List (Arrival τ × Decision τ)}
  {arrivals : List (Arrival τ)}

theorem remembers_start (l : Limit τ) (now begin : τ) : Remembers l now [] (start begin) where
  nodup := by simp [start, Entries.keys]
  sorted := .nil
  past := by simp
  keeps _ := ⟨[], rfl, by simp⟩

theorem map_fst_replay (l : Limit τ) (s : State τ) (arrivals : List (Arrival τ)) :
    (replay l s arrivals).map Prod.fst = arrivals := by
  induction arrivals generalizing s with
  | nil => rfl
  | cons a rest ih => rw [replay, List.map_cons, ih]

theorem transcript_sorted (l : Limit τ) (begin : τ) (h : arrivals.Pairwise (·.time ≤ ·.time)) :
    (transcript l begin arrivals).Pairwise fun x y => x.1.time ≤ y.1.time := by
  rw [← map_fst_replay l (start begin) arrivals] at h
  have hpairs := List.pairwise_map.1 h
  exact hpairs

theorem exists_before (h : arrivals.Pairwise (·.time ≤ ·.time)) :
    ∃ now, ∀ a ∈ arrivals, now ≤ a.time := by
  cases arrivals with
  | nil => exact ⟨0, by simp⟩
  | cons a rest => exact ⟨a.time, List.forall_mem_cons.2 ⟨le_rfl, (List.pairwise_cons.1 h).1⟩⟩

variable [IsOrderedAddMonoid τ]

namespace Remembers

theorem check_fst (h : Remembers l now log s) {a : Arrival τ} (hle : now ≤ a.time) :
    (check l a.time a.key s).1 =
      ruling l a.time ((admitted a.key log).filter (a.time - l.window < ·)) := by
  have hkeeps := (h.keeps a.key).mono (sub_le_sub_right hle l.window)
  rw [RateLimit.check_fst h.nodup, hkeeps.live_eq (admitted_sorted h.sorted a.key)]

theorem counted (h : Remembers l now log s) {a : Arrival τ} (hle : now ≤ a.time) :
    Counted l log (a, (check l a.time a.key s).1) := by
  have hcount : passed a.key (Set.Ioc (a.time - l.window) a.time) log =
      ((admitted a.key log).filter (a.time - l.window < ·)).length := by
    rw [passed, List.countP_eq_length_filter]
    refine congrArg List.length (List.filter_congr fun t ht => ?_)
    obtain ⟨x, hx, rfl⟩ := exists_of_mem_admitted ht
    simp [(h.past x hx).trans hle]
  rw [h.check_fst hle]
  constructor
  · dsimp only
    rw [hcount, ruling_allowed]
  · dsimp only
    rw [hcount]
    exact ruling_remaining

theorem step (h : Remembers l now log s) {a : Arrival τ} (hle : now ≤ a.time) :
    Remembers l a.time (log ++ [(a, (check l a.time a.key s).1)]) (check l a.time a.key s).2 where
  nodup := nodup_check h.nodup a.key
  sorted := by
    refine List.pairwise_append.2 ⟨h.sorted, List.pairwise_singleton .., fun x hx y hy => ?_⟩
    rw [List.mem_singleton.1 hy]
    exact (h.past x hx).trans hle
  past x hx := by
    rcases List.mem_append.1 hx with hx | hx
    · exact (h.past x hx).trans hle
    · rw [List.mem_singleton.1 hx]
  keeps key := by
    have hkeeps := (h.keeps key).mono (sub_le_sub_right hle l.window)
    rw [admitted_snoc, held_check h.nodup]
    by_cases hkey : a.key = key
    · subst hkey
      simpa using hkeeps.live.append _
    · rw [if_neg (fun hx => hkey hx.2), List.append_nil, if_neg hkey]
      rcases held_sweep h.nodup key with hheld | hheld
      · rw [hheld]
        exact hkeeps
      · rw [hheld]
        exact hkeeps.live

theorem counted_replay (h : Remembers l now log s) (hs : arrivals.Pairwise (·.time ≤ ·.time))
    (hnow : ∀ a ∈ arrivals, now ≤ a.time) {before rest : List (Arrival τ × Decision τ)}
    {x : Arrival τ × Decision τ} (hx : replay l s arrivals = before ++ x :: rest) :
    Counted l (log ++ before) x := by
  induction arrivals generalizing now s log before with
  | nil => simp [replay] at hx
  | cons a tail ih =>
    have hle := hnow a List.mem_cons_self
    rw [List.pairwise_cons] at hs
    rw [replay] at hx
    cases before with
    | nil =>
      rw [List.nil_append, List.cons.injEq] at hx
      rw [List.append_nil, ← hx.1]
      exact h.counted hle
    | cons y before =>
      rw [List.cons_append, List.cons.injEq] at hx
      have hcounted := ih (h.step hle) hs.2 hs.1 hx.2
      rwa [hx.1, List.append_assoc] at hcounted

theorem replay_filter {l' : Limit τ} {now' : τ} {s' : State τ}
    {log' : List (Arrival τ × Decision τ)} {key : String} (hmax : l'.max = l.max)
    (hwindow : l'.window = l.window) (h : Remembers l now log s) (h' : Remembers l' now' log' s')
    (hlog : admitted key log' = admitted key log) (hs : arrivals.Pairwise (·.time ≤ ·.time))
    (hnow : ∀ a ∈ arrivals, now ≤ a.time) (hnow' : ∀ a ∈ arrivals, now' ≤ a.time) :
    replay l' s' (arrivals.filter (·.key = key)) =
      (replay l s arrivals).filter (·.1.key = key) := by
  induction arrivals generalizing now now' s s' log log' with
  | nil => rfl
  | cons a rest ih =>
    have hle := hnow a List.mem_cons_self
    have hle' := hnow' a List.mem_cons_self
    rw [List.pairwise_cons] at hs
    by_cases hkey : a.key = key
    · have hsame : (check l' a.time a.key s').1 = (check l a.time a.key s).1 := by
        subst hkey
        rw [h'.check_fst hle', h.check_fst hle, hlog, ruling, ruling, hmax, hwindow]
      have hnext := ih (h.step hle) (h'.step hle')
        (by rw [admitted_snoc, admitted_snoc, hlog, hsame]) hs.2 hs.1 hs.1
      rw [List.filter_cons_of_pos (by simpa using hkey), replay, replay,
        List.filter_cons_of_pos (by simpa using hkey), hsame, hnext]
    · have hnext := ih (h.step hle) h'
        (by rw [admitted_snoc, if_neg (fun hx => hkey hx.2), List.append_nil, hlog]) hs.2 hs.1
        fun b hb => hnow' b (List.mem_cons_of_mem _ hb)
      rw [List.filter_cons_of_neg (by simpa using hkey), replay,
        List.filter_cons_of_neg (by simpa using hkey), hnext]

end Remembers

omit [IsOrderedAddMonoid τ] in
theorem passed_le (hs : log.Pairwise fun x y => x.1.time ≤ y.1.time)
    (hcounted : ∀ before x rest, log = before ++ x :: rest → Counted l before x) (key : String)
    (span : Set τ) [DecidablePred (· ∈ span)]
    (hspan : ∀ t ∈ span, ∀ u ∈ span, t ≤ u → u - l.window < t) :
    passed key span log ≤ l.max.toNat := by
  induction log using List.reverseRecOn with
  | nil => exact Nat.zero_le _
  | append_singleton before x ih =>
    have hbefore := ih (List.pairwise_append.1 hs).1 fun early y rest heq =>
      hcounted early y (rest ++ [x]) (by rw [heq]; simp)
    rw [passed, admitted_snoc, List.countP_append, ← passed]
    by_cases hx : (x.2.allowed ∧ x.1.key = key) ∧ x.1.time ∈ span
    · obtain ⟨⟨hallowed, rfl⟩, hmem⟩ := hx
      -- All that was let through in the span is still in the window of the last request.
      have hle : passed x.1.key span before ≤
          passed x.1.key (Set.Ioc (x.1.time - l.window) x.1.time) before := by
        refine List.countP_mono_left fun t ht htspan => ?_
        obtain ⟨y, hy, rfl⟩ := exists_of_mem_admitted ht
        have hyx := (List.pairwise_append.1 hs).2.2 y hy x List.mem_cons_self
        simp only [decide_eq_true_eq] at htspan ⊢
        exact ⟨hspan _ htspan _ hmem hyx, hyx⟩
      have hlt := (hcounted before x [] rfl).allowed.1 hallowed
      simp only [hallowed, and_self, if_true, List.countP_singleton, hmem, decide_true]
      omega
    · have hzero : List.countP (· ∈ span)
          (if x.2.allowed ∧ x.1.key = key then [x.1.time] else []) = 0 := by
        split
        · next hkey => simpa using fun hmem => hx ⟨hkey, hmem⟩
        · rfl
      rw [hzero]
      exact hbefore

/-- A request is let through exactly if a complete log has fewer than the limit for its key in
the window that ends with it; no window holds more than the limit; and no sweep and no request
of another key makes a difference to a decision. -/
theorem transcript_is_log (l : Limit τ) (begin : τ) (h : arrivals.Pairwise (·.time ≤ ·.time)) :
    (∀ before x rest, transcript l begin arrivals = before ++ x :: rest → Counted l before x) ∧
    (∀ key t, passed key (Set.Ioc t (t + l.window)) (transcript l begin arrivals) ≤ l.max.toNat ∧
      passed key (Set.Ico t (t + l.window)) (transcript l begin arrivals) ≤ l.max.toNat) ∧
    ∀ (other : Limit τ) (begin' : τ) (key : String),
      other.max = l.max → other.window = l.window →
      transcript other begin' (arrivals.filter (·.key = key)) =
        (transcript l begin arrivals).filter (·.1.key = key) := by
  obtain ⟨now, hnow⟩ := exists_before h
  have hsorted := transcript_sorted l begin h
  have counted : ∀ before x rest,
      transcript l begin arrivals = before ++ x :: rest → Counted l before x :=
    fun before x rest hx => (remembers_start l now begin).counted_replay h hnow hx
  refine ⟨counted, fun key t => ⟨?_, ?_⟩, fun other begin' key hmax hwindow => ?_⟩
  · refine passed_le hsorted counted key _ fun t' ht u hu _ => ?_
    exact (sub_le_iff_le_add.2 hu.2).trans_lt ht.1
  · refine passed_le hsorted counted key _ fun t' ht u hu _ => ?_
    exact (sub_lt_iff_lt_add.2 hu.2).trans_le ht.1
  · exact (remembers_start l now begin).replay_filter hmax hwindow
      (remembers_start other now begin') rfl h hnow hnow

end

def rush : List (Arrival ℚ) :=
  [⟨0, "a"⟩, ⟨5, "a"⟩, ⟨7, "a"⟩, ⟨7, "b"⟩, ⟨10, "a"⟩, ⟨400, "b"⟩]

theorem transcript_is_log_rush :
    rush.Pairwise (·.time ≤ ·.time) ∧
    (transcript (.ofWindow 2 10) 0 rush).map (·.2.allowed) = [true, true, false, true, true, true] ∧
    passed "a" (Set.Ioc 0 10) (transcript (.ofWindow 2 10) 0 rush) ≤ 2 ∧
    transcript ⟨2, 10, 1⟩ 3 (rush.filter (·.key = "a")) =
      (transcript (.ofWindow 2 10) 0 rush).filter (·.1.key = "a") := by
  have inOrder : rush.Pairwise (·.time ≤ ·.time) := by decide +kernel
  obtain ⟨-, bounded, alone⟩ := transcript_is_log (.ofWindow 2 10) 0 inOrder
  have upTo : passed "a" (Set.Ioc 0 (0 + 10)) (transcript (.ofWindow 2 10) 0 rush) ≤ 2 :=
    (bounded "a" 0).1
  exact ⟨inOrder, by decide +kernel, by simpa using upTo, alone ⟨2, 10, 1⟩ 3 "a" rfl rfl⟩

end IntakeForms.RateLimit
