import IntakeForms.Proofs.Service.Contracts
import IntakeForms.Proofs.Store.Effects

/-! Actions that look at a store as often as they like and then hand it one change, after which
nothing is left that could fail.  Carried out alone, over either store, such an action has been
refused and has changed nothing, or it has made its one call. -/

namespace IntakeForms.Service

open Store

variable {α β : Type} {k : Kind} {now : Timestamp} {m : Memory}

def recalls (k : Kind) (now : Timestamp) (m : Memory) : Contract where
  calls := Call.Reads
  replies c shown := ∃ reply, (m.run now c).1 = .ok reply ∧ k.Shows c reply shown
  moments t := t = now

def Settles : Action α → Prop
  | .done (.ok _) => True
  | .done (.error _) => False
  | .call _ _ => False
  | .note _ next => Settles next
  | .announce _ next => Settles next
  | .clock next => ∀ t, Settles (next t)
  | .generate _ next => ∀ text, Settles (next text)

def Commits (k : Kind) (now : Timestamp) (m : Memory) (writes : Call → Prop) : Action α → Prop
  | .done (.ok _) => False
  | .done (.error _) => True
  | .call c next =>
    (c.Reads ∧ ∀ reply shown, (m.run now c).1 = .ok reply → k.Shows c reply shown →
        Commits k now m writes (next shown)) ∨
      (writes c ∧ ∀ reply, Settles (next reply))
  | .note _ next => Commits k now m writes next
  | .announce _ next => Commits k now m writes next
  | .clock next => Commits k now m writes (next now)
  | .generate _ next => ∀ text, Commits k now m writes (next text)

theorem Obeys.commits {writes : Call → Prop} {a : Action α} {f : α → Action β}
    (h : Obeys (recalls k now m) (fun x => Commits k now m writes (f x)) a) :
    Commits k now m writes (a >>= f) := by
  change Commits k now m writes (a.bind f)
  induction a with
  | done result =>
    cases result with
    | ok x => exact h
    | error r => exact trivial
  | call c next ih =>
    exact .inl ⟨h.1, fun reply shown hreply hshown => ih _ (h.2 _ ⟨reply, hreply, hshown⟩)⟩
  | note e next ih => exact ih h
  | announce e next ih => exact ih h.2
  | clock next ih => exact ih now (h now rfl)
  | generate prompt next ih => exact fun text => ih text (h text)

theorem commits_perform {writes : Call → Prop} {c : Call} {f : c.Reply → Action β} (h : writes c)
    (hsettles : ∀ reply, Settles (f reply)) : Commits k now m writes (Action.perform c >>= f) :=
  .inr ⟨h, hsettles⟩

variable {w : World k.State}

theorem run_recalls (h : k.Shadows w.store m) (hnow : now.offset.isSome = true) {post : α → Prop}
    {a : Action α} (ha : Obeys (recalls k now m) post a) :
    k.Shadows (World.run k.backend now a w).2.store m := by
  refine (ha.run (P := fun st => k.Shadows st m) rfl (fun c st hc hst => ?_) h).1
  rcases hst.run_reads hnow hc with ⟨hnext, e, he⟩ | ⟨reply, shown, hreply, hok, hshown, hnext⟩
  · refine ⟨hnext, fun reply hreply => ?_⟩
    rw [he] at hreply
    cases hreply
  · refine ⟨hnext, fun found heq => ⟨reply, hreply, ?_⟩⟩
    rwa [Except.ok.inj (heq.symm.trans hok)]

theorem run_settles (b : Backend k.State) (now : Timestamp) {a : Action α} (ha : Settles a)
    (w : World k.State) :
    (World.run b now a w).2.store = w.store ∧ ∃ x, (World.run b now a w).1 = .ok x := by
  induction a generalizing w with
  | done result =>
    cases result with
    | ok x => exact ⟨rfl, x, rfl⟩
    | error r => exact ha.elim
  | call c next ih => exact ha.elim
  | note e next ih => exact ih ha _
  | announce e next ih => exact ih ha _
  | clock next ih => exact ih now (ha now) _
  | generate prompt next ih => exact ih _ (ha _) _

theorem run_commits (h : k.Shadows w.store m) (hnow : now.offset.isSome = true)
    {writes : Call → Prop}
    (hwrites : ∀ c, writes c → c.Genuine ∧ m.Draws c ∧
      ∀ title workspace draft, c = .create title workspace draft → draft = none)
    {a : Action α} (ha : Commits k now m writes a) :
    (k.Shadows (World.run k.backend now a w).2.store m ∧
        ∃ e, (World.run k.backend now a w).1 = .error e) ∨
      ∃ c reply, writes c ∧ (m.run now c).1 = .ok reply ∧
        k.Shadows (World.run k.backend now a w).2.store (m.run now c).2 ∧
        ∃ x, (World.run k.backend now a w).1 = .ok x := by
  induction a generalizing w with
  | done result =>
    cases result with
    | ok x => exact ha.elim
    | error r => exact .inl ⟨h, r, rfl⟩
  | call c next ih =>
    rw [World.run]
    rcases ha with ⟨hreads, hnext⟩ | ⟨hc, hsettles⟩
    · rcases h.run_reads hnow hreads with
        ⟨hstate, e, hreply⟩ | ⟨reply, shown, hok, hreply, hshown, hstate⟩
      · rw [hreply]
        exact .inl ⟨hstate, _, rfl⟩
      · rw [hreply]
        exact ih _ hstate (hnext reply shown hok hshown)
    · -- the call that changes the store; whatever follows it can only settle
      obtain ⟨hgenuine, hdraws, hcreate⟩ := hwrites c hc
      rcases h.run hnow hgenuine hdraws hcreate with
        ⟨hstate, e, hreply⟩ | ⟨reply, shown, hok, hreply, -, hstate⟩
      · rw [hreply]
        exact .inl ⟨hstate, _, rfl⟩
      · rw [hreply]
        obtain ⟨hstore, x, hx⟩ := run_settles k.backend now (hsettles shown)
          ({ w with store := (k.backend.run now c w.store).state }.record
            (k.backend.run now c w.store).entries)
        refine .inr ⟨c, reply, hc, hok, ?_, x, hx⟩
        change k.Shadows (World.run k.backend now (next shown) _).2.store _
        rw [hstore]
        exact hstate
  | note e next ih => exact ih h ha
  | announce e next ih => exact ih h ha
  | clock next ih => exact ih now h ha
  | generate prompt next ih => exact ih _ h (ha _)

end IntakeForms.Service
