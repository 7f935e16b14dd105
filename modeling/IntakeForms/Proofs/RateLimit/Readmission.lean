import IntakeForms.Proofs.RateLimit.Log

/-! When a key that was refused is let through again.  At a refusal its window is full, and it
stays full until the oldest of the requests in it leaves; `resetAt` is that very moment, whatever
is asked of other keys meanwhile.  A pause in whole seconds reaches it exactly if rounding the
pause does not shorten it. -/

namespace IntakeForms.RateLimit

section

variable {τ : Type} [AddCommGroup τ] [LinearOrder τ]

/-- What a limiter holds after a history of requests. -/
def after (l : Limit τ) (begin : τ) (history : List (Arrival τ)) : State τ :=
  history.foldl (fun s a => (check l a.time a.key s).2) (start begin)

/-- The decision on a request that comes after a history. -/
def decision (l : Limit τ) (begin : τ) (history : List (Arrival τ)) (a : Arrival τ) : Decision τ :=
  (check l a.time a.key (after l begin history)).1

def standing (l : Limit τ) (now : τ) (key : String) (log : List (Arrival τ × Decision τ)) : List τ :=
  (admitted key log).filter (now - l.window < ·)

variable {l : Limit τ} {now later begin : τ} {key : String} {history : List (Arrival τ)}
  {a : Arrival τ}

theorem replay_append (l : Limit τ) (s : State τ) (first rest : List (Arrival τ)) :
    replay l s (first ++ rest) = replay l s first ++
      replay l (first.foldl (fun s a => (check l a.time a.key s).2) s) rest := by
  induction first generalizing s with
  | nil => rfl
  | cons a first ih => simp only [List.cons_append, replay, List.foldl_cons, ih]

theorem transcript_concat (l : Limit τ) (begin : τ) (history : List (Arrival τ)) (a : Arrival τ) :
    transcript l begin (history ++ [a]) =
      transcript l begin history ++ [(a, decision l begin history a)] :=
  replay_append l (start begin) history [a]

theorem after_concat (l : Limit τ) (begin : τ) (history : List (Arrival τ)) (a : Arrival τ) :
    after l begin (history ++ [a]) = (check l a.time a.key (after l begin history)).2 :=
  List.foldl_concat ..

variable [IsOrderedAddMonoid τ]

theorem Remembers.mono {log : List (Arrival τ × Decision τ)} {s : State τ}
    (h : Remembers l now log s) (hle : now ≤ later) : Remembers l later log s where
  nodup := h.nodup
  sorted := h.sorted
  past x hx := (h.past x hx).trans hle
  keeps key := (h.keeps key).mono (sub_le_sub_right hle l.window)

theorem remembers_after (l : Limit τ) (begin : τ) (h : history.Pairwise (·.time ≤ ·.time))
    (hnow : ∀ a ∈ history, a.time ≤ now) :
    Remembers l now (transcript l begin history) (after l begin history) := by
  induction history using List.reverseRecOn generalizing now with
  | nil => exact remembers_start l now begin
  | append_singleton history a ih =>
    obtain ⟨hs, -, hle⟩ := List.pairwise_append.1 h
    have hbefore := ih hs fun b hb => hle b hb a List.mem_cons_self
    rw [transcript_concat, after_concat]
    exact (hbefore.step le_rfl).mono (hnow a (List.mem_append_right _ List.mem_cons_self))

theorem decision_eq (l : Limit τ) (begin : τ) (h : (history ++ [a]).Pairwise (·.time ≤ ·.time)) :
    decision l begin history a =
      ruling l a.time (standing l a.time a.key (transcript l begin history)) := by
  obtain ⟨hs, -, hle⟩ := List.pairwise_append.1 h
  exact (remembers_after l begin hs fun b hb => hle b hb a List.mem_cons_self).check_fst le_rfl

theorem length_standing_le (l : Limit τ) (begin : τ) (h : history.Pairwise (·.time ≤ ·.time))
    (hnow : ∀ a ∈ history, a.time ≤ now) (key : String) :
    (standing l now key (transcript l begin history)).length ≤ l.max.toNat := by
  obtain ⟨early, hearly⟩ := exists_before h
  have hle : passed key (Set.Ioc (now - l.window) now) (transcript l begin history) ≤
      l.max.toNat := by
    refine passed_le (transcript_sorted l begin h) (fun before x rest hx => ?_) key _ ?_
    · exact (remembers_start l early begin).counted_replay h hearly hx
    · exact fun t ht u hu _ => (sub_le_sub_right hu.2 l.window).trans_lt ht.1
  have hpast := (remembers_after l begin h hnow).past
  rw [passed, List.countP_eq_length_filter] at hle
  refine (le_of_eq ?_).trans hle
  refine congrArg List.length (List.filter_congr fun t ht => ?_)
  obtain ⟨x, hx, rfl⟩ := exists_of_mem_admitted ht
  simp [hpast x hx]

omit [IsOrderedAddMonoid τ] in
theorem standing_sorted (l : Limit τ) (begin : τ) (h : history.Pairwise (·.time ≤ ·.time))
    (now : τ) (key : String) :
    (standing l now key (transcript l begin history)).Pairwise (· ≤ ·) :=
  (admitted_sorted (transcript_sorted l begin h) key).filter _

theorem standing_later (hle : now ≤ later) (key : String) (log : List (Arrival τ × Decision τ)) :
    standing l later key log = (standing l now key log).filter (later - l.window < ·) := by
  rw [standing, standing, List.filter_filter]
  refine List.filter_congr fun t _ => ?_
  have hearlier : later - l.window < t → now - l.window < t :=
    (sub_le_sub_right hle l.window).trans_lt
  simpa using fun h => hearlier h

omit [AddCommGroup τ] [IsOrderedAddMonoid τ] in
theorem length_filter_lt_iff {first : τ} {times : List τ} (h : times.Pairwise (· ≤ ·))
    (hfirst : times.head? = some first) (cutoff : τ) :
    (times.filter (cutoff < ·)).length < times.length ↔ first ≤ cutoff := by
  obtain ⟨rest, rfl⟩ := List.head?_eq_some_iff.1 hfirst
  rw [List.length_filter_lt_length_iff_exists]
  constructor
  · rintro ⟨t, ht, hover⟩
    have hle : t ≤ cutoff := by simpa using hover
    rcases List.mem_cons.1 ht with rfl | ht
    · exact hle
    · exact ((List.pairwise_cons.1 h).1 t ht).trans hle
  · exact fun hover => ⟨first, List.mem_cons_self, by simpa using hover⟩

omit [IsOrderedAddMonoid τ] in
theorem admitted_others {between : List (Arrival τ)} (hother : ∀ b ∈ between, b.key ≠ key)
    (l : Limit τ) (begin : τ) (history : List (Arrival τ)) :
    admitted key (transcript l begin (history ++ between)) =
      admitted key (transcript l begin history) := by
  induction between using List.reverseRecOn with
  | nil => rw [List.append_nil]
  | append_singleton between b ih =>
    have hb := hother b (List.mem_append_right _ List.mem_cons_self)
    rw [← List.append_assoc, transcript_concat, admitted_snoc, if_neg fun h => hb h.2,
      List.append_nil]
    exact ih fun c hc => hother c (List.mem_append_left _ hc)

omit [IsOrderedAddMonoid τ] in
theorem admitted_refused (hdenied : (decision l begin history a).allowed = false) (key : String) :
    admitted key (transcript l begin (history ++ [a])) =
      admitted key (transcript l begin history) := by
  rw [transcript_concat, admitted_snoc, if_neg (by simp [hdenied]), List.append_nil]

/-- At a refusal the window is full, and is said to open again when the oldest request in it
leaves. -/
structure Full (l : Limit τ) (begin : τ) (history : List (Arrival τ)) (a : Arrival τ)
    (oldest : τ) : Prop where
  length : ((standing l a.time a.key (transcript l begin history)).length : Int) = l.max
  head : (standing l a.time a.key (transcript l begin history)).head? = some oldest
  inside : a.time < oldest + l.window
  resetAt : (decision l begin history a).resetAt = oldest + l.window
  retryAfter : (decision l begin history a).retryAfter = oldest + l.window - a.time

theorem exists_full (hmax : 1 ≤ l.max) (h : (history ++ [a]).Pairwise (·.time ≤ ·.time))
    (hdenied : (decision l begin history a).allowed = false) :
    ∃ oldest, Full l begin history a oldest := by
  obtain ⟨hs, -, hle⟩ := List.pairwise_append.1 h
  have hbound := length_standing_le l begin hs (fun b hb => hle b hb a List.mem_cons_self) a.key
  have heq := decision_eq l begin h
  have hfull : l.max ≤ (standing l a.time a.key (transcript l begin history)).length := by
    rw [heq] at hdenied
    exact not_lt.1 fun hlt => by simp [(ruling_allowed l a.time _).2 hlt] at hdenied
  obtain ⟨oldest, rest, hstanding⟩ := List.exists_cons_of_length_pos (l := standing l a.time a.key
    (transcript l begin history)) (by omega)
  have hinside : a.time < oldest + l.window := by
    have hmem : oldest ∈ standing l a.time a.key (transcript l begin history) := by
      rw [hstanding]
      exact List.mem_cons_self
    exact sub_lt_iff_lt_add.1 (by simpa using (List.mem_filter.1 hmem).2)
  refine ⟨oldest, by omega, by rw [hstanding]; rfl, hinside, ?_, ?_⟩
  · rw [heq, ruling, if_pos hfull, hstanding]
    rfl
  · rw [heq, ruling, if_pos hfull, hstanding, larger]
    exact if_pos (sub_pos.2 hinside)

theorem Full.allowed_iff {oldest : τ} (hfull : Full l begin history a oldest) {b : Arrival τ}
    {between : List (Arrival τ)}
    (h : (history ++ a :: (between ++ [b])).Pairwise (·.time ≤ ·.time))
    (hdenied : (decision l begin history a).allowed = false)
    (hother : ∀ c ∈ between, c.key ≠ a.key) (hkey : b.key = a.key) :
    (decision l begin (history ++ a :: between) b).allowed = true ↔
      oldest + l.window ≤ b.time := by
  have hsplit : history ++ a :: between = history ++ [a] ++ between := by simp
  obtain ⟨hs, hlater, -⟩ := List.pairwise_append.1 h
  have hle : a.time ≤ b.time := (List.pairwise_cons.1 hlater).1 b (by simp)
  have hadmitted : standing l b.time b.key (transcript l begin (history ++ a :: between)) =
      standing l b.time a.key (transcript l begin history) := by
    rw [standing, hkey, hsplit, admitted_others hother, admitted_refused hdenied, standing]
  rw [decision_eq l begin (by simpa using h), ruling_allowed, hadmitted, standing_later hle,
    ← hfull.length, Nat.cast_lt, length_filter_lt_iff (standing_sorted l begin hs _ _) hfull.head,
    le_sub_iff_add_le]

/-- A refusal says when the key is let through again: not before, and from then on at once. -/
theorem denied_until_resetAt (l : Limit τ) (begin : τ) (hmax : 1 ≤ l.max)
    (h : (history ++ [a]).Pairwise (·.time ≤ ·.time))
    (hdenied : (decision l begin history a).allowed = false) :
    a.time < (decision l begin history a).resetAt ∧
    (decision l begin history a).retryAfter = (decision l begin history a).resetAt - a.time ∧
    ∀ (between : List (Arrival τ)) (b : Arrival τ),
      (history ++ a :: (between ++ [b])).Pairwise (·.time ≤ ·.time) →
      (∀ c ∈ between, c.key ≠ a.key) → b.key = a.key →
      ((decision l begin (history ++ a :: between) b).allowed = true ↔
        (decision l begin history a).resetAt ≤ b.time) := by
  obtain ⟨oldest, hfull⟩ := exists_full hmax h hdenied
  rw [hfull.resetAt, hfull.retryAfter]
  exact ⟨hfull.inside, rfl, fun between b hs hother hkey =>
    hfull.allowed_iff hs hdenied hother hkey⟩

end

def fewInLong : Limit ℚ := .ofWindow 2 400

theorem denied_until_resetAt_fewInLong :
    (decision fewInLong 0 [⟨0, "a"⟩, ⟨100, "a"⟩] ⟨150, "a"⟩).allowed = false ∧
      (decision fewInLong 0 [⟨0, "a"⟩, ⟨100, "a"⟩] ⟨150, "a"⟩).retryAfter = 400 - 150 ∧
      ((decision fewInLong 0 [⟨0, "a"⟩, ⟨100, "a"⟩, ⟨150, "a"⟩, ⟨310, "b"⟩] ⟨399, "a"⟩).allowed =
        false) ∧
      (decision fewInLong 0 [⟨0, "a"⟩, ⟨100, "a"⟩, ⟨150, "a"⟩, ⟨310, "b"⟩] ⟨400, "a"⟩).allowed =
        true := by
  have hdenied : (decision fewInLong 0 [⟨0, "a"⟩, ⟨100, "a"⟩] ⟨150, "a"⟩).allowed = false := by
    decide +kernel
  have hreset : (decision fewInLong 0 [⟨0, "a"⟩, ⟨100, "a"⟩] ⟨150, "a"⟩).resetAt = 400 := by
    decide +kernel
  obtain ⟨-, hretry, hnext⟩ := denied_until_resetAt fewInLong 0 (by decide) (by decide +kernel)
    hdenied
  rw [hreset] at hretry hnext
  have hearly := hnext [⟨310, "b"⟩] ⟨399, "a"⟩ (by decide +kernel) (by decide +kernel) rfl
  have hlater := hnext [⟨310, "b"⟩] ⟨400, "a"⟩ (by decide +kernel) (by decide +kernel) rfl
  exact ⟨hdenied, hretry, by simpa using mt hearly.1 (by norm_num), hlater.2 le_rfl⟩

/-- The nearest whole number is the one below, unless the rest is more than a half, or a half
above an odd number. -/
theorem roundRat_of_nonneg {x : ℚ} (hx : 0 ≤ x) :
    roundRat x =
      if Int.fract x < 1 / 2 ∨ Int.fract x = 1 / 2 ∧ Even ⌊x⌋ then ⌊x⌋ else ⌊x⌋ + 1 := by
  obtain ⟨n, hn⟩ := Int.eq_ofNat_of_zero_le (Rat.num_nonneg.2 hx)
  have heq : x = (n : ℚ) / (x.den : ℚ) := by
    rw [← Int.cast_natCast, ← hn, Rat.num_div_den]
  have hden : (0 : ℚ) < x.den := by exact_mod_cast x.den_pos
  have hfloor : ⌊x⌋ = (n / x.den : ℕ) :=
    (congrArg Int.floor heq).trans (Rat.floor_natCast_div_natCast n x.den)
  have hfract : Int.fract x = (n % x.den : ℕ) / (x.den : ℚ) :=
    (congrArg Int.fract heq).trans Int.fract_div_natCast_eq_div_natCast_mod
  have hlt : Int.fract x < 1 / 2 ↔ 2 * (n % x.den) < x.den := by
    rw [hfract, div_lt_div_iff₀ hden two_pos]
    norm_cast
    omega
  have hhalf : Int.fract x = 1 / 2 ↔ 2 * (n % x.den) = x.den := by
    rw [hfract, div_eq_div_iff hden.ne' two_ne_zero]
    norm_cast
    omega
  rw [roundRat, if_pos (Rat.num_nonneg.2 hx), hn, Int.toNat_natCast, roundHalfEven]
  simp only [hlt, hhalf, hfloor, Int.even_coe_nat, Nat.even_iff]
  split_ifs <;> first | rfl | omega

theorem le_roundRat_iff {x : ℚ} (hx : 0 ≤ x) :
    x ≤ roundRat x ↔
      Int.fract x = 0 ∨ 1 / 2 < Int.fract x ∨ Int.fract x = 1 / 2 ∧ Odd ⌊x⌋ := by
  have hsplit := Int.floor_add_fract x
  have hlt := Int.fract_lt_one x
  have hnonneg := Int.fract_nonneg x
  rw [roundRat_of_nonneg hx, ← Int.not_even_iff_odd]
  split
  · next hdown =>
    constructor
    · exact fun hle => .inl (le_antisymm (by linarith) hnonneg)
    · rintro (hzero | hmore | ⟨hhalf, hodd⟩)
      · linarith
      · rcases hdown with hless | ⟨hhalf, -⟩ <;> linarith
      · rcases hdown with hless | ⟨-, heven⟩
        · linarith
        · exact absurd heven hodd
  · next hup =>
    rw [not_or, not_lt, not_and] at hup
    have hle : x ≤ (⌊x⌋ + 1 : ℤ) := by
      push_cast
      linarith
    exact iff_of_true hle (.inr (hup.1.lt_or_eq.imp id fun h => ⟨h.symm, hup.2 h.symm⟩))

theorem le_roundRat_add_half {x : ℚ} (hx : 0 ≤ x) : x ≤ roundRat x + 1 / 2 := by
  have hsplit := Int.floor_add_fract x
  have hlt := Int.fract_lt_one x
  rw [roundRat_of_nonneg hx]
  split
  · next hdown => rcases hdown with hless | ⟨hhalf, -⟩ <;> linarith
  · push_cast
    linarith

theorem le_waitSeconds_iff {pause : ℚ} :
    pause ≤ waitSeconds pause ↔ pause ≤ 1 ∨ pause ≤ roundRat pause := by
  rw [waitSeconds, Int.cast_max, le_max_iff, Int.cast_one]

theorem le_waitSeconds_add_half {pause : ℚ} (hpause : 0 ≤ pause) :
    pause ≤ waitSeconds pause + 1 / 2 := by
  have hround : (roundRat pause : ℚ) ≤ waitSeconds pause := by
    exact_mod_cast le_max_right 1 (roundRat pause)
  linarith [le_roundRat_add_half hpause]

end IntakeForms.RateLimit
