import IntakeForms.Proofs.Service.Clients
import Mathlib

/-! One client applies a proposal while another saves a draft of the same form.  What is applied
is written over whatever is there by then: the saved draft is lost exactly if it comes between
the draft being read for the proposal and being written with it. -/

namespace IntakeForms.Service

/-- The draft with the proposal applied. -/
def merged (p : Proposal) (x : Draft) : Draft := { x with sections := p.apply x.sections }

/-- The draft has sections and can be copied, and nothing keeps the proposal from being applied to
them. -/
def Accepts (settings : Settings) (p : Proposal) (x : Draft) : Prop :=
  x.sections ≠ [] ∧ x.isCopied settings.limits.copying = true ∧ p.issues x.sections = []

instance (settings : Settings) (p : Proposal) (x : Draft) : Decidable (Accepts settings p x) :=
  inferInstanceAs (Decidable (_ ∧ _ ∧ _))

variable {settings : Settings} {id : String} {p : Proposal} {d x : Draft}

def resumed (settings : Settings) (id : String) (p : Proposal) (x : Draft) : Action Unit :=
  .call (.saveDraft id (merged p x)) fun _ =>
    .note (checked (Flow.check settings.policy (p.apply x.sections)) (p.apply x.sections).length)
      (.done (.ok ()))

theorem apply_action (settings : Settings) (id : String) (p : Proposal) :
    ∃ next, (Request.apply id p).action settings = .call (.get id) next ∧ ∀ q : Record,
      (Accepts settings p q.draft → next (some q) = resumed settings id p q.draft) ∧
        (¬ Accepts settings p q.draft → ∃ e, next (some q) = .done (.error e)) := by
  refine ⟨_, rfl, fun q => ?_⟩
  by_cases hnone : q.draft.sections = []
  · have hdraft : draftOf settings q = .done (.error .emptyDraft) := by
      simp [draftOf, hnone, Action.refuse]
    refine ⟨fun h => absurd hnone h.1, fun _ => ⟨.emptyDraft, ?_⟩⟩
    simp [hdraft, bind, pure, Action.bind]
  cases hcopied : q.draft.isCopied settings.limits.copying with
  | false =>
    have hdraft : draftOf settings q = .done (.error .uncopied) := by
      simp [draftOf, hnone, hcopied, Action.refuse]
    refine ⟨fun h => absurd (hcopied.symm.trans h.2.1) (by simp), fun _ => ⟨.uncopied, ?_⟩⟩
    simp [hdraft, bind, pure, Action.bind]
  | true =>
    have hdraft : draftOf settings q = .done (.ok q.draft) := by
      simp [draftOf, hnone, hcopied, pure]
    cases hissues : p.issues q.draft.sections with
    | nil =>
      refine ⟨fun _ => ?_, fun h => absurd ⟨hnone, hcopied, hissues⟩ h⟩
      have hsome : p.apply q.draft.sections ≠ [] := by simp [Proposal.apply, hnone]
      simp [hdraft, hissues, requireSound, check, hsome, resumed, merged, bind, pure, Action.bind,
        Action.perform, Action.tell]
    | cons first rest =>
      refine ⟨fun h => absurd (hissues.symm.trans h.2.2) (by simp),
        fun _ => ⟨.proposalRejected first.message (first :: rest), ?_⟩⟩
      simp [hdraft, hissues, requireSound, bind, pure, Action.bind, Action.refuse]

theorem save_action (settings : Settings) (id : String) (d : Draft) :
    (Request.saveDraft id d).action settings = .call (.saveDraft id d) fun _ => .done (.ok ()) :=
  rfl

theorem run_saveDraft {m : Memory} (h : m.Sound) {q : Record} (hq : m.record? id = some q)
    (now : Timestamp) (x : Draft) :
    ∃ saved next, m.run now (.saveDraft id x) = (.ok saved, next) ∧ next.Sound ∧
      next.record? id = some saved ∧ saved.draft = x := by
  refine ⟨{ q with draft := x, updatedAt := now }, m.store { q with draft := x, updatedAt := now },
    by simp only [Memory.run, hq], ?_, ?_, rfl⟩
  · exact h.replace hq { q with draft := x, updatedAt := now } rfl rfl rfl
  · rw [← h.keyed hq]
    exact Memory.record?_store ..

/-- How far the request to apply a proposal is. -/
inductive Progress
  | waiting
  | holding (x : Draft)
  | stored
  | finished
  | refused

def Progress.Left (settings : Settings) (id : String) (p : Proposal) : Progress → Action Unit → Prop
  | .waiting, a => a = (Request.apply id p).action settings
  | .holding x, a => a = resumed settings id p x
  | .stored, a => ∃ e, a = .note e (.done (.ok ()))
  | .finished, a => a = .done (.ok ())
  | .refused, a => ∃ e, a = .done (.error e)

/-- How far both requests are, and the draft as it is. -/
structure Stage where
  progress : Progress
  saved : Bool
  draft : Draft

namespace Stage

def move (settings : Settings) (p : Proposal) (d : Draft) (g : Stage) : Nat → Stage
  | 0 => match g.progress with
    | .waiting =>
      { g with progress := if Accepts settings p g.draft then .holding g.draft else .refused }
    | .holding x => { g with progress := .stored, draft := merged p x }
    | .stored => { g with progress := .finished }
    | _ => g
  | 1 => if g.saved then g else { g with saved := true, draft := d }
  | _ => g

structure Shows (settings : Settings) (id : String) (p : Proposal) (d : Draft) (g : Stage)
    (s : System) : Prop where
  sound : s.store.Sound
  pending : ∃ a, g.progress.Left settings id p a ∧ s.pending =
    [a, if g.saved then .done (.ok ()) else (Request.saveDraft id d).action settings]
  draft : ∃ q, s.store.record? id = some q ∧ q.draft = g.draft

variable {g : Stage} {s : System}

theorem step_applying {a : Action Unit} {w : World Memory} {q : Record}
    (hleft : g.progress.Left settings id p a) (hsound : w.store.Sound)
    (hq : w.store.record? id = some q) (hdraft : q.draft = g.draft) (now : Timestamp) :
    (g.move settings p d 0).progress.Left settings id p (World.step Memory.backend now a w).1 ∧
      (World.step Memory.backend now a w).2.store.Sound ∧
      ∃ r, (World.step Memory.backend now a w).2.store.record? id = some r ∧
        r.draft = (g.move settings p d 0).draft := by
  obtain ⟨progress, saved, draft⟩ := g
  cases progress with
  | waiting =>
    obtain ⟨next, haction, hnext⟩ := apply_action settings id p
    have hstep : World.step Memory.backend now a w = (next (some q), w.record []) := by
      rw [show a = _ from hleft, haction]
      simp only [World.step, Memory.backend, Memory.run, hq]
    rw [hstep]
    refine ⟨?_, hsound, q, hq, hdraft⟩
    obtain rfl : q.draft = draft := hdraft
    by_cases haccepts : Accepts settings p q.draft
    · simp [move, haccepts, Progress.Left, (hnext q).1 haccepts]
    · simp [move, haccepts, Progress.Left, (hnext q).2 haccepts]
  | holding x =>
    obtain ⟨stored, next, hrun, hnext, hstored, hx⟩ := run_saveDraft hsound hq now (merged p x)
    rw [show a = _ from hleft]
    simp only [World.step, resumed, Memory.backend, hrun]
    exact ⟨⟨_, rfl⟩, hnext, stored, hstored, hx⟩
  | stored =>
    obtain ⟨e, rfl⟩ := hleft
    exact ⟨rfl, hsound, q, hq, hdraft⟩
  | finished =>
    obtain rfl := hleft
    exact ⟨rfl, hsound, q, hq, hdraft⟩
  | refused =>
    obtain ⟨e, rfl⟩ := hleft
    exact ⟨⟨e, rfl⟩, hsound, q, hq, hdraft⟩

theorem saved_move_zero (g : Stage) : (g.move settings p d 0).saved = g.saved := by
  obtain ⟨progress, saved, draft⟩ := g
  cases progress <;> rfl

theorem Shows.advance (h : g.Shows settings id p d s) (now : Timestamp) (i : Nat) :
    (g.move settings p d i).Shows settings id p d (s.advance now i) := by
  obtain ⟨a, hleft, hpending⟩ := h.pending
  obtain ⟨q, hq, hdraft⟩ := h.draft
  match i with
  | 0 =>
    obtain ⟨hnext, hsound, hrecord⟩ := step_applying (d := d) hleft h.sound hq hdraft now
    have hadvance : s.advance now 0 = ⟨(World.step Memory.backend now a s.world).2,
        [(World.step Memory.backend now a s.world).1,
          if g.saved then .done (.ok ()) else (Request.saveDraft id d).action settings]⟩ := by
      simp [System.advance, hpending]
    rw [hadvance]
    exact ⟨hsound, ⟨_, hnext, by rw [saved_move_zero]⟩, hrecord⟩
  | 1 =>
    cases hsaved : g.saved with
    | true =>
      have hadvance : s.advance now 1 = s := by
        rw [hsaved, if_pos rfl] at hpending
        calc s.advance now 1 = ⟨s.world, [a, .done (.ok ())]⟩ := by
              simp [System.advance, hpending, World.step]
          _ = s := by rw [← hpending]
      rw [hadvance, move, if_pos hsaved]
      exact h
    | false =>
      obtain ⟨stored, next, hrun, hsound, hrecord, hx⟩ := run_saveDraft h.sound hq now d
      have hadvance : s.advance now 1 =
          ⟨{ s.world with store := next }.record [], [a, .done (.ok ())]⟩ := by
        simp [System.advance, hpending, hsaved, save_action, World.step, Memory.backend,
          show s.world.store = s.store from rfl, hrun]
      rw [hadvance, move, if_neg (by simp [hsaved])]
      exact ⟨hsound, ⟨a, hleft, rfl⟩, ⟨stored, hrecord, hx⟩⟩
  | i + 2 =>
    have hnone : s.pending[i + 2]? = none := by simp [hpending]
    simp only [System.advance, hnone]
    exact h

theorem Shows.foldl (h : g.Shows settings id p d s) (moves : List (Timestamp × Nat)) :
    ((moves.map Prod.snd).foldl (move settings p d) g).Shows settings id p d
      (moves.foldl (fun s e => s.advance e.1 e.2) s) := by
  induction moves generalizing g s with
  | nil => exact h
  | cons e rest ih => exact ih (h.advance e.1 e.2)

def Ends (settings : Settings) (p : Proposal) (g : Stage) (y : Draft) : Prop :=
  match g.progress with
  | .waiting => Accepts settings p g.draft ∧ y = merged p g.draft
  | .holding x => y = merged p x
  | .stored | .finished => y = g.draft
  | .refused => False

theorem ends_of_saved {moves : List Nat} (hsaved : g.saved = true)
    (hfinished : (moves.foldl (move settings p d) g).progress = .finished) :
    g.Ends settings p (moves.foldl (move settings p d) g).draft := by
  induction moves generalizing g with
  | nil =>
    rw [List.foldl_nil] at hfinished ⊢
    simp [Ends, hfinished]
  | cons i rest ih =>
    rw [List.foldl_cons] at hfinished ⊢
    obtain ⟨progress, saved, draft⟩ := g
    obtain rfl : saved = true := hsaved
    match i with
    | 0 =>
      have hends := ih (by rw [saved_move_zero]) hfinished
      cases progress with
      | waiting =>
        by_cases haccepts : Accepts settings p draft
        · simp only [move, haccepts, if_true] at hends ⊢
          exact ⟨haccepts, hends⟩
        · simp only [move, haccepts, if_false] at hends
          exact hends.elim
      | _ => exact hends
    | 1 => exact ih rfl hfinished
    | i + 2 => exact ih rfl hfinished

/-- How far the request to apply the proposal comes before the draft is saved: it reads with its
first move and writes with its second. -/
def turn (moves : List Nat) : Nat := (moves.takeWhile (· ≠ 1)).count 0

def Comes (settings : Settings) (p : Proposal) (d : Draft) (g : Stage) (n : Nat) (y : Draft) :
    Prop :=
  match g.progress, n with
  | .waiting, 0 => Accepts settings p d ∧ y = merged p d
  | .waiting, 1 => Accepts settings p g.draft ∧ y = merged p g.draft
  | .waiting, _ + 2 => Accepts settings p g.draft ∧ y = d
  | .holding x, 0 => y = merged p x
  | .holding _, _ + 1 => y = d
  | .stored, _ | .finished, _ => y = d
  | .refused, _ => False

theorem comes_of_unsaved {moves : List Nat} (hunsaved : g.saved = false)
    (hfinished : (moves.foldl (move settings p d) g).progress = .finished)
    (hsaved : (moves.foldl (move settings p d) g).saved = true) :
    g.Comes settings p d (turn moves) (moves.foldl (move settings p d) g).draft := by
  induction moves generalizing g with
  | nil =>
    rw [List.foldl_nil, hunsaved] at hsaved
    cases hsaved
  | cons i rest ih =>
    rw [List.foldl_cons] at hfinished hsaved ⊢
    obtain ⟨progress, saved, draft⟩ := g
    obtain rfl : saved = false := hunsaved
    match i with
    | 0 =>
      have hcomes := ih (by rw [saved_move_zero]) hfinished hsaved
      have hturn : turn (0 :: rest) = turn rest + 1 := by simp [turn]
      rw [hturn]
      cases progress with
      | waiting =>
        by_cases haccepts : Accepts settings p draft
        · simp only [move, haccepts, if_true] at hcomes ⊢
          cases hn : turn rest with
          | zero =>
            rw [hn] at hcomes
            exact ⟨haccepts, hcomes⟩
          | succ n =>
            rw [hn] at hcomes
            exact ⟨haccepts, hcomes⟩
        · simp only [move, haccepts, if_false] at hcomes
          exact hcomes.elim
      | holding x => exact hcomes
      | stored => exact hcomes
      | finished => exact hcomes
      | refused => exact hcomes
    | 1 =>
      -- the save ends the count, and only the other request is left
      have hends := ends_of_saved (by rfl) hfinished
      have hturn : turn (1 :: rest) = 0 := by simp [turn]
      rw [hturn]
      cases progress <;> exact hends
    | i + 2 =>
      have hturn : turn ((i + 2) :: rest) = turn rest := by simp [turn]
      rw [hturn]
      exact ih rfl hfinished hsaved

end Stage

/-- Carried out alone, one request after the other, both succeed and leave this draft. -/
def InOrder (now : Timestamp) (id : String) (first second : Action Unit) (w : World Memory)
    (y : Draft) : Prop :=
  ∃ between last q, World.run Memory.backend now first w = (.ok (), between) ∧
    World.run Memory.backend now second between = (.ok (), last) ∧
    last.store.record? id = some q ∧ q.draft = y

variable {w : World Memory} {q : Record}

theorem run_save (settings : Settings) (hsound : w.store.Sound)
    (hq : w.store.record? id = some q) (now : Timestamp) (d : Draft) :
    ∃ next r, World.run Memory.backend now ((Request.saveDraft id d).action settings) w =
      (.ok (), next) ∧ next.store.Sound ∧ next.store.record? id = some r ∧ r.draft = d := by
  obtain ⟨r, next, hrun, hnext, hr, hd⟩ := run_saveDraft hsound hq now d
  refine ⟨({ w with store := next } : World Memory).record [], r, ?_, hnext, hr, hd⟩
  simp [save_action, World.run, Memory.backend, hrun]

theorem run_apply (settings : Settings) (hsound : w.store.Sound)
    (hq : w.store.record? id = some q) (now : Timestamp) (p : Proposal) :
    (Accepts settings p q.draft →
      ∃ next r, World.run Memory.backend now ((Request.apply id p).action settings) w =
        (.ok (), next) ∧ next.store.Sound ∧ next.store.record? id = some r ∧
          r.draft = merged p q.draft) ∧
    (¬ Accepts settings p q.draft →
      ∃ e next, World.run Memory.backend now ((Request.apply id p).action settings) w =
        (.error e, next)) := by
  obtain ⟨next, haction, hnext⟩ := apply_action settings id p
  have hread : World.run Memory.backend now ((Request.apply id p).action settings) w =
      World.run Memory.backend now (next (some q)) (w.record []) := by
    rw [haction]
    simp only [World.run, Memory.backend, Memory.run, hq]
  rw [hread]
  constructor
  · intro haccepts
    obtain ⟨r, stored, hrun, hsound, hr, hx⟩ := run_saveDraft hsound hq now (merged p q.draft)
    rw [(hnext q).1 haccepts, resumed]
    simp only [World.run, Memory.backend, show (w.record []).store = w.store from rfl, hrun]
    exact ⟨_, r, rfl, hsound, hr, hx⟩
  · intro hrefuses
    obtain ⟨e, hdone⟩ := (hnext q).2 hrefuses
    exact ⟨e, _, by rw [hdone]; rfl⟩

theorem inOrder_save_apply_iff (hsound : w.store.Sound) (hq : w.store.record? id = some q)
    (now : Timestamp) {y : Draft} :
    InOrder now id ((Request.saveDraft id d).action settings)
      ((Request.apply id p).action settings) w y ↔ Accepts settings p d ∧ y = merged p d := by
  obtain ⟨between, r, hfirst, hbetween, hr, rfl⟩ := run_save settings hsound hq now d
  obtain ⟨happlied, hrefused⟩ := run_apply settings hbetween hr now p
  constructor
  · rintro ⟨_, last, z, hrun, hthen, hz, rfl⟩
    obtain rfl : between = _ := (Prod.mk.inj (hfirst.symm.trans hrun)).2
    by_cases haccepts : Accepts settings p r.draft
    · obtain ⟨next, z', hnext, -, hz', hdraft⟩ := happlied haccepts
      obtain rfl : next = last := (Prod.mk.inj (hnext.symm.trans hthen)).2
      obtain rfl : z' = z := Option.some.inj (hz'.symm.trans hz)
      exact ⟨haccepts, hdraft⟩
    · obtain ⟨e, next, hnext⟩ := hrefused haccepts
      cases hnext.symm.trans hthen
  · rintro ⟨haccepts, rfl⟩
    obtain ⟨last, z, hthen, -, hz, hdraft⟩ := happlied haccepts
    exact ⟨between, last, z, hfirst, hthen, hz, hdraft⟩

theorem inOrder_apply_save_iff (hsound : w.store.Sound) (hq : w.store.record? id = some q)
    (now : Timestamp) {y : Draft} :
    InOrder now id ((Request.apply id p).action settings)
      ((Request.saveDraft id d).action settings) w y ↔ Accepts settings p q.draft ∧ y = d := by
  obtain ⟨happlied, hrefused⟩ := run_apply settings hsound hq now p
  by_cases haccepts : Accepts settings p q.draft
  · obtain ⟨between, r, hfirst, hbetween, hr, -⟩ := happlied haccepts
    obtain ⟨last, z, hthen, -, hz, rfl⟩ := run_save settings hbetween hr now d
    constructor
    · rintro ⟨_, last', z', hrun, hthen', hz', rfl⟩
      obtain rfl : between = _ := (Prod.mk.inj (hfirst.symm.trans hrun)).2
      obtain rfl : last = last' := (Prod.mk.inj (hthen.symm.trans hthen')).2
      exact ⟨haccepts, congrArg Record.draft (Option.some.inj (hz'.symm.trans hz))⟩
    · rintro ⟨-, rfl⟩
      exact ⟨between, last, z, hfirst, hthen, hz, rfl⟩
  · obtain ⟨e, next, hnext⟩ := hrefused haccepts
    constructor
    · rintro ⟨_, _, _, hrun, -⟩
      cases hnext.symm.trans hrun
    · exact fun h => absurd h.1 haccepts

/-- The system after some moves of its two clients, each at its moment. -/
def System.moved (moves : List (Timestamp × Nat)) (s : System) : System :=
  moves.foldl (fun s e => s.advance e.1 e.2) s

theorem Progress.Left.finished {progress : Progress}
    (h : progress.Left settings id p (.done (.ok ()))) : progress = .finished := by
  cases progress with
  | waiting =>
    obtain ⟨next, haction, -⟩ := apply_action settings id p
    cases h.trans haction
  | holding x => cases h
  | stored =>
    obtain ⟨e, h⟩ := h
    cases h
  | finished => rfl
  | refused =>
    obtain ⟨e, h⟩ := h
    cases h

theorem shows_start {s : System} (hsound : s.store.Sound) {r : Record}
    (hr : s.store.record? id = some r)
    (hpending : s.pending =
      [(Request.apply id p).action settings, (Request.saveDraft id d).action settings]) :
    Stage.Shows settings id p d ⟨.waiting, false, r.draft⟩ s :=
  ⟨hsound, ⟨_, rfl, hpending⟩, r, hr, rfl⟩

/-- When both requests have succeeded, the draft is the one that they leave one after the other,
in one order or the other, unless the save came between the reading and the writing of the
proposal.  Then the draft that was saved is lost: what is left is the proposal applied to the draft
of before, which one of the orders leaves only by coincidence. -/
theorem edit_kept_unless_between {s : System} (hsound : s.store.Sound) {r : Record}
    (hr : s.store.record? id = some r)
    (hpending : s.pending =
      [(Request.apply id p).action settings, (Request.saveDraft id d).action settings])
    {moves : List (Timestamp × Nat)}
    (hdone : (s.moved moves).pending = [.done (.ok ()), .done (.ok ())]) (now : Timestamp) :
    ∃ q, (s.moved moves).store.record? id = some q ∧
      if Stage.turn (moves.map Prod.snd) = 1 then
        q.draft = merged p r.draft ∧
          (InOrder now id ((Request.apply id p).action settings)
              ((Request.saveDraft id d).action settings) s.world q.draft ∨
            InOrder now id ((Request.saveDraft id d).action settings)
              ((Request.apply id p).action settings) s.world q.draft ↔
            q.draft = d ∨ Accepts settings p d ∧ q.draft = merged p d)
      else
        InOrder now id ((Request.apply id p).action settings)
            ((Request.saveDraft id d).action settings) s.world q.draft ∨
          InOrder now id ((Request.saveDraft id d).action settings)
            ((Request.apply id p).action settings) s.world q.draft := by
  have hshows := (shows_start hsound hr hpending).foldl moves
  obtain ⟨a, hleft, hfinal⟩ := hshows.pending
  obtain ⟨q, hq, hdraft⟩ := hshows.draft
  obtain ⟨rfl, hsaved⟩ := List.cons.inj (hfinal.symm.trans hdone)
  have hfinished := hleft.finished
  have hsaved :
      ((moves.map Prod.snd).foldl (Stage.move settings p d) ⟨.waiting, false, r.draft⟩).saved =
        true := by
    by_contra hunsaved
    rw [if_neg hunsaved, save_action] at hsaved
    cases (List.cons.inj hsaved).1
  have hcomes := Stage.comes_of_unsaved rfl hfinished hsaved
  rw [← hdraft] at hcomes
  refine ⟨q, hq, ?_⟩
  rw [inOrder_apply_save_iff hsound hr, inOrder_save_apply_iff hsound hr]
  match hturn : Stage.turn (moves.map Prod.snd) with
  | 0 =>
    rw [hturn] at hcomes
    exact .inr hcomes
  | 1 =>
    rw [hturn] at hcomes
    rw [if_pos rfl]
    refine ⟨hcomes.2, or_congr_left ?_⟩
    exact and_iff_right hcomes.1
  | n + 2 =>
    rw [hturn] at hcomes
    rw [if_neg (by omega)]
    exact .inl hcomes

def nine : Timestamp := ⟨2024, 5, 1, 9, 0, 0, 0, some 0⟩

def halves : Draft where
  sections := [⟨"start", "", none, [], []⟩, ⟨"end", "", none, [], []⟩]

def onward : Proposal := ⟨[⟨"start", [⟨"on", .any, none, none, "end"⟩]⟩], none⟩

def renamed : Draft := { halves with metadata := { title := "Renamed" } }

def workshop : System where
  world := { publisher := ⟨"", .absent, []⟩, model := ⟨"", [], 0⟩
             store := { ids := ⟨toString, 2⟩, submissions := [("intake_1", [])]
                        records := [("intake_1",
                          ⟨"intake_1", "", "", "intake-2", halves, none, nine, nine⟩)] } }
  pending := [(Request.apply "intake_1" onward).action ⟨{}, false, .usual⟩,
    (Request.saveDraft "intake_1" renamed).action ⟨{}, false, .usual⟩]

theorem sound_workshop : workshop.store.Sound := by
  have hrecord {i : String} {r : Record} (h : workshop.store.record? i = some r) :
      i = "intake_1" := by
    by_contra hi
    simp [workshop, System.store, Memory.record?, Entries.get?, Ne.symm hi] at h
  refine ⟨by decide, fun h => ?_, fun hr hq _ => (hrecord hr).trans (hrecord hq).symm⟩
  obtain rfl := hrecord h
  cases h
  rfl

/-- The title is saved after the proposal has read the draft and before it is written. -/
def between : List (Timestamp × Nat) := [(nine, 0), (nine, 1), (nine, 0), (nine, 0)]

theorem accepts_halves : Accepts ⟨{}, false, .usual⟩ onward halves := by
  decide +kernel

theorem moved_between :
    (workshop.moved between).pending = [.done (.ok ()), .done (.ok ())] ∧
      ∃ q, (workshop.moved between).store.record? "intake_1" = some q ∧
        q.draft = merged onward halves := by
  have hstage : (between.map Prod.snd).foldl (Stage.move ⟨{}, false, .usual⟩ onward renamed)
      ⟨.waiting, false, halves⟩ = ⟨.finished, true, merged onward halves⟩ := by
    simp [between, Stage.move, accepts_halves]
  have hstart : Stage.Shows ⟨{}, false, .usual⟩ "intake_1" onward renamed ⟨.waiting, false, halves⟩
      workshop := shows_start sound_workshop rfl rfl
  have hshows := hstart.foldl between
  rw [hstage] at hshows
  obtain ⟨a, rfl, hpending⟩ := hshows.pending
  exact ⟨hpending, hshows.draft⟩

theorem edit_kept_unless_between_workshop :
    (workshop.moved between).pending = [.done (.ok ()), .done (.ok ())] ∧
      ∃ q, (workshop.moved between).store.record? "intake_1" = some q ∧
        q.draft = merged onward halves := by
  obtain ⟨q, hq, h⟩ := edit_kept_unless_between sound_workshop rfl rfl moved_between.1 nine
  exact ⟨moved_between.1, q, hq, h.1⟩

/-- The title is lost, and no order of the two requests leaves the form without it. -/
theorem renamed_lost :
    ∃ q, (workshop.moved between).pending = [.done (.ok ()), .done (.ok ())] ∧
      (workshop.moved between).store.record? "intake_1" = some q ∧
      ¬ InOrder nine "intake_1" ((Request.apply "intake_1" onward).action ⟨{}, false, .usual⟩)
        ((Request.saveDraft "intake_1" renamed).action ⟨{}, false, .usual⟩) workshop.world q.draft ∧
      ¬ InOrder nine "intake_1" ((Request.saveDraft "intake_1" renamed).action ⟨{}, false, .usual⟩)
        ((Request.apply "intake_1" onward).action ⟨{}, false, .usual⟩) workshop.world q.draft := by
  obtain ⟨hdone, q, hq, hdraft⟩ := moved_between
  refine ⟨q, hdone, hq, fun h => ?_, fun h => ?_⟩
  · obtain ⟨-, hy⟩ := (inOrder_apply_save_iff sound_workshop rfl nine).1 h
    exact absurd (congrArg (fun y => y.metadata.title) (hdraft.symm.trans hy)) (by decide)
  · obtain ⟨-, hy⟩ := (inOrder_save_apply_iff sound_workshop rfl nine).1 h
    exact absurd (congrArg (fun y => y.metadata.title) (hdraft.symm.trans hy)) (by decide)

end IntakeForms.Service
