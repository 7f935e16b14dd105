import IntakeForms.Proofs.Service.Receipts
import IntakeForms.Proofs.Store.Listing

/-! What authors find in a list.  Whatever a history has asked for, a list can be given, with the
latest changes first, no form twice and no form of another workspace; every form of the workspace
is in it where the store is in memory, and otherwise as long as they are not too many. -/

namespace IntakeForms

namespace Call

def HandsOut : (c : Call) → c.Reply → Prop
  | .get _, found => ∀ r ∈ found, r.draft.Genuine
  | _, _ => True

end Call

namespace Service

open Store

def genuine : Contract where
  calls := Call.Genuine
  replies := Call.HandsOut
  moments := OnClock

variable {settings : Settings} {k : Kind} {now : Timestamp} {w : World k.State}

theorem allows_of_genuine {o : Operation} (ho : o.Genuine) : genuine.Allows o := by
  cases o with
  | create title workspace => exact fun d hd => by cases hd
  | saveDraft id draft => exact ho
  | apply id proposal => exact fun r hr => genuine_apply (hr r rfl) proposal
  | publish id => exact fun r now hr hnow => ⟨⟨hr r rfl, hnow.valid⟩, trivial⟩
  | submit slug answers metadata => exact fun _ _ _ _ => ⟨trivial, fun _ _ => trivial⟩
  | _ => trivial

theorem shelved_operation (h : k.Shelved w.store) (hnow : OnClock now) {o : Operation}
    (ho : o.Genuine) : k.Shelved (o.run settings k now w).2.store := by
  have hobeys := obeys_operation (K := genuine) (fun c hc => by cases c <;> trivial) settings
    (allows_of_genuine ho)
  refine (hobeys.run (P := k.Shelved) hnow (fun c st hc hst => ⟨hst.run hnow.zoned hc, ?_⟩) h).1
  intro reply hreply
  cases c with
  | get id =>
    rintro r rfl
    exact hst.get hreply
  | _ => trivial

theorem shelved_after (settings : Settings) (h : k.Shelved w.store) {history : History}
    (hhistory : ∀ asked ∈ history, OnClock asked.1 ∧ asked.2.Genuine) :
    k.Shelved (after settings k w history).store := by
  induction history generalizing w with
  | nil => exact h
  | cons asked rest ih =>
    rw [List.forall_mem_cons] at hhistory
    exact ih (shelved_operation h hhistory.1.1 hhistory.1.2) hhistory.2

theorem run_list {σ : Type} {b : Backend σ} {w : World σ} {workspace : Option String}
    {listed : List Record} (h : (b.run now (.list workspace) w.store).reply = .ok listed) :
    (World.run b now (Service.list workspace) w).1 = .ok listed := by
  simp only [Service.list, Action.perform, World.run, h]

/-- Whatever has been asked for, the forms of a workspace can be listed, no form twice and none of
another workspace, the latest changes first.  Every form of the workspace is listed exactly if the
store is in memory or there are no more than are listed at most; else the earliest changes are
left out. -/
theorem list_is_complete_iff (settings : Settings) (k : Kind) (ids : Ids) (w : World k.State)
    {history : History} (hhistory : ∀ asked ∈ history, OnClock asked.1 ∧ asked.2.Genuine)
    (now : Timestamp) :
    ∃ records, (k.holdings now (after settings k (vacant k ids w) history).store).Comprises
        records ∧
      ∀ workspace, ∃ listed,
        ((Operation.list workspace).run settings k now
            (after settings k (vacant k ids w) history)).1 = .ok listed ∧
          listed.Pairwise (fun r q => q.updatedAt.instant ≤ r.updatedAt.instant) ∧
          listed.Subperm (records.filter (Memory.inWorkspace workspace)) ∧
          (∀ r ∈ records.filter (Memory.inWorkspace workspace), r ∉ listed →
            ∀ q ∈ listed, r.updatedAt.instant ≤ q.updatedAt.instant) ∧
          (listed.Perm (records.filter (Memory.inWorkspace workspace)) ↔
            k = .memory ∨
              (records.filter (Memory.inWorkspace workspace)).length ≤ Documents.maxListed) := by
  have hshelved := shelved_after settings (w := vacant k ids w) (k.shelved_empty ids) hhistory
  obtain ⟨records, hrecords, hlist⟩ := hshelved.list now
  refine ⟨records, hrecords, fun workspace => ?_⟩
  obtain ⟨sorted, hsorted, hreply⟩ := hlist workspace
  exact ⟨_, run_list hreply, k.sorted_cut hsorted, k.subperm_cut hsorted,
    fun r hr hcut q hq => k.latest_cut hsorted hr hcut hq, k.perm_cut_iff hsorted⟩

def making (n : Nat) : History := List.replicate n (eight, .create "Notes" "home")

theorem making_succ (n : Nat) : making (n + 1) = making n ++ [(eight, .create "Notes" "home")] :=
  List.replicate_succ'

theorem genuine_making (n : Nat) : ∀ asked ∈ making n, OnClock asked.1 ∧ asked.2.Genuine := by
  intro asked hasked
  obtain rfl := List.eq_of_mem_replicate hasked
  exact ⟨onClock_eight, trivial⟩

def nextId (made : Nat) : String := (Ids.newId "intake" ⟨toString, 2 * made⟩).1

theorem nextId_eq {n : Nat} (hn : n < 1000) :
    nextId n = "intake" ++ "_" ++ Nat.repr (2 * n + 1) := by
  have hpower : 10 ^ Ids.idLength = 1000000000000 := by decide
  have hclip : Text.clip Ids.idLength (toString (2 * n + 1)) = Nat.repr (2 * n + 1) :=
    Text.clip_of_length_le (Nat.repr_length _ _ (by decide) (by omega))
  simp only [nextId, Ids.newId, Ids.next, hclip]

theorem nextId_ne {m n : Nat} (hm : m < n) (hn : n < 1000) : nextId m ≠ nextId n := by
  rw [nextId_eq (hm.trans hn), nextId_eq hn, Ne, String.append_right_inj, Nat.repr_inj]
  omega

theorem state_create (q : Queries) (now : Timestamp) (title workspace : String) (d : Documents) :
    (d.run q now (.create title workspace none)).state.ids = ⟨d.ids.hex, d.ids.used + 2⟩ ∧
      ∃ doc, (d.run q now (.create title workspace none)).state.intakes =
        Entries.put (Ids.newId "intake" d.ids).1 doc d.intakes := by
  have hwritten (id slug : String) :
      Documents.ofRecord (freshRecord title workspace none id slug now) =
        .ok (Documents.document (freshRecord title workspace none id slug now)) :=
    Documents.ofRecord_freshRecord (by rfl)
  simp only [Documents.run, Documents.create, hwritten]
  exact ⟨rfl, _, rfl⟩

theorem store_create (q : Queries) (now : Timestamp) (title workspace : String)
    (w : World Documents) :
    (World.run (Documents.backend q) now (Service.create title workspace) w).2.store =
      (Documents.run q now (.create title workspace none) w.store).state := by
  simp only [Service.create, Action.perform, World.run]
  cases ((Documents.backend q).run now (.create title workspace none) w.store).reply <;> rfl

def stocked (n : Nat) : World (Kind.State .ordered) :=
  after ⟨{}, false, .usual⟩ .ordered blank (making n)

theorem store_stocked_succ (n : Nat) : (stocked (n + 1)).store =
    (Documents.run .ordered eight (.create "Notes" "home" none) (stocked n).store).state := by
  rw [stocked, making_succ, after_concat]
  exact store_create .ordered eight "Notes" "home" (stocked n)

theorem keys_stocked {n : Nat} (hn : n ≤ 1000) :
    Documents.ids (stocked n).store = ⟨toString, 2 * n⟩ ∧
      Entries.keys (Documents.intakes (stocked n).store) = (List.range n).map nextId := by
  induction n with
  | zero => exact ⟨rfl, rfl⟩
  | succ n ih =>
    obtain ⟨hids, hkeys⟩ := ih (Nat.le_of_succ_le hn)
    obtain ⟨hnext, doc, hput⟩ := state_create .ordered eight "Notes" "home" (stocked n).store
    have hnew : nextId n ∉ (List.range n).map nextId := by
      rw [List.mem_map]
      rintro ⟨m, hm, heq⟩
      exact nextId_ne (List.mem_range.1 hm) hn heq
    rw [store_stocked_succ, hnext, hput, hids, Entries.keys_put, hkeys, List.range_succ,
      List.map_append]
    exact ⟨rfl, if_neg hnew⟩

theorem length_stocked {n : Nat} (hn : n ≤ 1000) {records : List Record}
    (h : (Kind.holdings eight .ordered (stocked n).store).Comprises records) :
    records.length = n := by
  have hkeys := congrArg List.length (h.ids.trans (keys_stocked hn).2)
  simpa using hkeys

/-- Of one form more than is listed at most, one is not listed. -/
theorem stocked_cut_off :
    ∃ records listed,
      (Kind.holdings eight .ordered (stocked (Documents.maxListed + 1)).store).Comprises
        records ∧
      ((Operation.list none).run ⟨{}, false, .usual⟩ .ordered eight
        (stocked (Documents.maxListed + 1))).1 = .ok listed ∧
      ∃ r ∈ records, r ∉ listed := by
  have hshelved := shelved_after ⟨{}, false, .usual⟩ (w := blank) (Kind.shelved_empty .ordered _)
    (genuine_making (Documents.maxListed + 1))
  obtain ⟨records, hrecords, hlist⟩ := hshelved.list eight
  have hmade := length_stocked (by decide) hrecords
  obtain ⟨sorted, -, hreply⟩ := hlist none
  refine ⟨records, _, hrecords, run_list hreply, ?_⟩
  by_contra hall
  push Not at hall
  -- no two records are the same, so that as many would have to be listed
  have hnodup : records.Nodup := .of_map Record.id (hrecords.ids ▸ hrecords.nodup)
  have hle := (hnodup.subperm hall).length_le
  rw [hmade, Kind.cut] at hle
  exact absurd (hle.trans (List.length_take_le _ _)) (Nat.not_succ_le_self _)

theorem list_is_complete_iff_two :
    (∀ asked ∈ making 2, OnClock asked.1 ∧ asked.2.Genuine) ∧
      ∃ records listed,
        (Kind.holdings eight .ordered (stocked 2).store).Comprises records ∧
        records.length = 2 ∧
        ((Operation.list none).run ⟨{}, false, .usual⟩ .ordered eight (stocked 2)).1 = .ok listed ∧
        listed.Perm (records.filter (Memory.inWorkspace none)) := by
  obtain ⟨records, hrecords, hlist⟩ := list_is_complete_iff ⟨{}, false, .usual⟩ .ordered ⟨toString, 0⟩
    blank (genuine_making 2) eight
  obtain ⟨listed, hrun, -, -, -, hperm⟩ := hlist none
  have hmade := length_stocked (by decide) hrecords
  refine ⟨genuine_making 2, records, listed, hrecords, hmade, hrun, hperm.2 (.inr ?_)⟩
  exact (List.length_filter_le _ _).trans (hmade.le.trans (by decide))

end Service

end IntakeForms
