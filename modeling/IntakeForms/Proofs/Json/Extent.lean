import IntakeForms.Proofs.Json.Scanning

/-! The part of a text that a value is read from.  It is not empty, begins and ends with its own
characters, and the same value is read from it whatever beginning of the rest follows, by a
reader with as much room and with twice as much fuel as there are characters. -/

namespace IntakeForms.Json

open Text (Trimmed)

theorem isBlank_of_isGap {c : Char} (h : isGap c = true) : Text.isBlank c = true := by
  simp only [isGap, Bool.or_eq_true, beq_iff_eq] at h
  rcases h with ((rfl | rfl) | rfl) | rfl <;> decide

theorem isGap_of_isOuter {c : Char} (h : isOuter c = false) : isGap c = false := by
  have hblank := isBlank_of_isOuter h
  rw [Bool.eq_false_iff] at hblank ⊢
  exact fun hgap => hblank (isBlank_of_isGap hgap)

def gap (cs : List Char) : List Char := cs.takeWhile isGap

theorem eq_gap_append {cs rest : List Char} (h : skipGap cs = rest) : cs = gap cs ++ rest := by
  rw [← h]
  exact List.takeWhile_append_dropWhile.symm

theorem skipGap_gap_cons {c : Char} {cs u : List Char} (h : isGap c = false) :
    skipGap (gap cs ++ c :: u) = c :: u :=
  Text.dropWhile_append_of_head? (fun _ => List.mem_takeWhile_imp) (by simpa using h)

theorem gap_append_isPrefix {cs rest u : List Char} (h : skipGap cs = rest) (hu : u <+: rest) :
    gap cs ++ u <+: cs := by
  obtain ⟨t, rfl⟩ := hu
  exact ⟨t, by rw [List.append_assoc]; exact (eq_gap_append h).symm⟩

theorem trimmed_singleton {c : Char} (h : isOuter c = false) : Trimmed isOuter [c] :=
  .of_all (by simpa using h)

theorem trimmed_cons_append {c : Char} {mid q : List Char} (hc : isOuter c = false)
    (hq : Trimmed isOuter q) (hq' : q ≠ []) : Trimmed isOuter (c :: (mid ++ q)) :=
  (trimmed_singleton hc).enclose (List.cons_ne_nil c []) hq hq'

section Extent

variable {α : Type} {f one : Nat → List Char → Read α} {many : Nat → List Char → Read (List α)}
  {spare fuel : Nat} {p cs rest tail left : List Char} {a : α} {as : List α} {start close : Char}

/-- The reader takes `p` of the text `p ++ tail`, and takes the same of `p` and a beginning of
`tail` if it has fuel for the characters that it sees. -/
structure Extent (f : Nat → List Char → Read α) (spare : Nat) (p tail : List Char) (a : α) :
    Prop where
  ne_nil : p ≠ []
  trimmed : Trimmed isOuter p
  again : ∀ fuel u, u <+: tail → 2 * (p ++ u).length + spare ≤ fuel →
    f fuel (p ++ u) = .ok (a, u)

def HasExtent (f : Nat → List Char → Read α) (spare : Nat) (cs tail : List Char) (a : α) : Prop :=
  ∃ p, cs = p ++ tail ∧ Extent f spare p tail a

theorem Extent.succ (hp : p ≠ []) (ht : Trimmed isOuter p)
    (h : ∀ fuel u, u <+: tail → 2 * (p ++ u).length + spare ≤ fuel + 1 →
      f (fuel + 1) (p ++ u) = .ok (a, u)) : Extent f spare p tail a where
  ne_nil := hp
  trimmed := ht
  again fuel u hu hfuel := by
    have hpos : 0 < p.length := List.length_pos_iff.2 hp
    obtain ⟨k, rfl⟩ : ∃ k, fuel = k + 1 := ⟨fuel - 1, by simp at hfuel; omega⟩
    exact h k u hu hfuel

theorem Extent.skipGap_append (h : Extent f spare p tail a) (cs u : List Char) :
    skipGap (gap cs ++ (p ++ u)) = p ++ u := by
  obtain ⟨c, q, rfl⟩ := List.exists_cons_of_ne_nil h.ne_nil
  have hc : isOuter c = false := h.trimmed.head c rfl
  exact skipGap_gap_cons (isGap_of_isOuter hc)

def Separated (one : Nat → List Char → Read α) (many : Nat → List Char → Read (List α))
    (close : Char) : Prop :=
  ∀ fuel cs as left, many (fuel + 1) cs = .ok (as, left) ↔
    ∃ a tail, one fuel cs = .ok (a, tail) ∧
      (skipGap tail = close :: left ∧ as = [a] ∨
        ∃ rest more, skipGap tail = ',' :: rest ∧ many fuel (skipGap rest) = .ok (more, left) ∧
          as = a :: more)

theorem Separated.hasExtent (h : Separated one many close) (hclose : isOuter close = false)
    (hone : ∀ cs tail a, one fuel cs = .ok (a, tail) → HasExtent one 0 cs tail a)
    (hmany : ∀ cs tail as, many fuel cs = .ok (as, tail) → HasExtent many 1 cs tail as)
    (hread : many (fuel + 1) cs = .ok (as, left)) : HasExtent many 1 cs left as := by
  obtain ⟨a, tail, ha, hrest⟩ := (h _ _ _ _).1 hread
  obtain ⟨p, rfl, hp⟩ := hone _ _ _ ha
  have hgap : isGap close = false := isGap_of_isOuter hclose
  rcases hrest with ⟨hend, rfl⟩ | ⟨rest, more, hcomma, hmore, rfl⟩
  · refine ⟨p ++ (gap tail ++ [close]), by simpa using eq_gap_append hend, .succ (by simp)
      (hp.trimmed.enclose hp.ne_nil (trimmed_singleton hclose) (by simp))
      fun k u hu hk => ?_⟩
    simp only [List.append_assoc, List.singleton_append] at hk ⊢
    have htail : gap tail ++ close :: u <+: tail :=
      gap_append_isPrefix hend (List.cons_prefix_cons.2 ⟨rfl, hu⟩)
    exact (h _ _ _ _).2 ⟨a, _, hp.again k _ htail (by omega), .inl ⟨skipGap_gap_cons hgap, rfl⟩⟩
  · obtain ⟨q, hq, hq'⟩ := hmany _ _ _ hmore
    refine ⟨p ++ ((gap tail ++ ',' :: gap rest) ++ q), ?_, .succ (by simp [hp.ne_nil])
      (hp.trimmed.enclose hp.ne_nil hq'.trimmed hq'.ne_nil) fun k u hu hk => ?_⟩
    · have htail : tail = gap tail ++ ',' :: (gap rest ++ (q ++ left)) :=
        (eq_gap_append hcomma).trans (by rw [← eq_gap_append hq])
      simpa using htail
    · simp only [List.append_assoc, List.cons_append] at hk ⊢
      have hrest : gap rest ++ (q ++ u) <+: rest :=
        gap_append_isPrefix hq ((List.prefix_append_right_inj q).2 hu)
      have htail : gap tail ++ ',' :: (gap rest ++ (q ++ u)) <+: tail :=
        gap_append_isPrefix hcomma (List.cons_prefix_cons.2 ⟨rfl, hrest⟩)
      refine (h _ _ _ _).2 ⟨a, _, hp.again k _ htail (by omega),
        .inr ⟨_, more, skipGap_gap_cons (by decide), ?_, rfl⟩⟩
      rw [hq'.skipGap_append]
      exact hq'.again k u hu (by simp only [List.length_append, List.length_cons] at hk ⊢; omega)

def Enclosed (many : Nat → List Char → Read (List α)) (f : Nat → List Char → Read Tree)
    (wrap : List α → Tree) (start close : Char) : Prop :=
  ∀ fuel rest v tail, f (fuel + 1) (start :: rest) = .ok (v, tail) ↔
    skipGap rest = close :: tail ∧ v = wrap [] ∨
      (∀ t, skipGap rest ≠ close :: t) ∧
        ∃ as, many fuel (skipGap rest) = .ok (as, tail) ∧ v = wrap as

theorem Enclosed.hasExtent {g : Nat → List Char → Read Tree} {wrap : List α → Tree} {v : Tree}
    (h : Enclosed many g wrap start close) (hstart : isOuter start = false)
    (hclose : isOuter close = false)
    (hmany : ∀ cs tail as, many fuel cs = .ok (as, tail) → HasExtent many 1 cs tail as)
    (hread : g (fuel + 1) (start :: rest) = .ok (v, tail)) :
    HasExtent g 0 (start :: rest) tail v := by
  rcases (h _ _ _ _).1 hread with ⟨hend, rfl⟩ | ⟨hopen, as, has, rfl⟩
  · refine ⟨start :: (gap rest ++ [close]), by simpa using eq_gap_append hend, .succ (by simp)
      (trimmed_cons_append hstart (trimmed_singleton hclose) (by simp)) fun k u hu hk => ?_⟩
    simp only [List.cons_append, List.append_assoc, List.nil_append]
    exact (h _ _ _ _).2 (.inl ⟨skipGap_gap_cons (isGap_of_isOuter hclose), rfl⟩)
  · obtain ⟨p, hp, hp'⟩ := hmany _ _ _ has
    refine ⟨start :: (gap rest ++ p), by simpa using eq_gap_append hp, .succ (by simp)
      (trimmed_cons_append hstart hp'.trimmed hp'.ne_nil) fun k u hu hk => ?_⟩
    simp only [List.cons_append, List.append_assoc] at hk ⊢
    refine (h _ _ _ _).2 (.inr ?_)
    rw [hp'.skipGap_append]
    refine ⟨fun t ht => ?_, as, hp'.again k u hu ?_, rfl⟩
    · obtain ⟨c, q, rfl⟩ := List.exists_cons_of_ne_nil hp'.ne_nil
      obtain ⟨rfl, -⟩ := List.cons.inj ht
      exact hopen _ hp
    · simp only [List.length_append, List.length_cons] at hk ⊢
      omega

end Extent

variable {b : Bounds} {fuel room : Nat} {cs rest tail left : List Char} {v : Tree}

theorem separated_items : Separated (value b · room) (items b · room) ']' := by
  intro fuel cs as left
  constructor
  · intro h
    dsimp only at h
    unfold items at h
    split at h
    · cases h
    · next hv =>
      refine ⟨_, _, hv, ?_⟩
      split at h
      · next hend =>
        cases h
        exact .inl ⟨hend, rfl⟩
      · next hcomma =>
        split at h
        · cases h
        · next hmore =>
          cases h
          exact .inr ⟨_, _, hcomma, hmore, rfl⟩
      · cases h
  · rintro ⟨a, tail, ha, ⟨hend, rfl⟩ | ⟨rest, more, hcomma, hmore, rfl⟩⟩
    · simp only [items, ha, hend]
    · simp only [items, ha, hcomma, hmore]

def member (b : Bounds) (fuel room : Nat) (cs : List Char) : Read (List Text.Point × Tree) :=
  match cs with
  | '"' :: afterQuote =>
    match chars cs afterQuote with
    | .error f => .error f
    | .ok (name, afterName) =>
      match skipGap afterName with
      | ':' :: afterColon =>
        match value b fuel room (skipGap afterColon) with
        | .error f => .error f
        | .ok (v, tail) => .ok ((name, v), tail)
      | rest => .error (.mistake .colonExpected rest)
  | _ => .error (.mistake .nameExpected cs)

theorem member_eq_ok_iff {e : List Text.Point × Tree} : member b fuel room cs = .ok (e, tail) ↔
    ∃ afterQuote name afterName afterColon v, cs = '"' :: afterQuote ∧
      chars cs afterQuote = .ok (name, afterName) ∧ skipGap afterName = ':' :: afterColon ∧
      value b fuel room (skipGap afterColon) = .ok (v, tail) ∧
      e = (name, v) := by
  constructor
  · intro h
    unfold member at h
    split at h
    · split at h
      · cases h
      · next hname =>
        split at h
        · next hcolon =>
          split at h
          · cases h
          · next hv =>
            cases h
            exact ⟨_, _, _, _, _, rfl, hname, hcolon, hv, rfl⟩
        · cases h
    · cases h
  · rintro ⟨afterQuote, name, afterName, afterColon, v, rfl, hname, hcolon, hv, rfl⟩
    simp only [member, hname, hcolon, hv]

theorem separated_members : Separated (member b · room) (members b · room) '\x7d' := by
  intro fuel cs es left
  constructor
  · intro h
    dsimp only at h
    unfold members at h
    split at h
    · split at h
      · cases h
      · next hname =>
        split at h
        · next hcolon =>
          split at h
          · cases h
          · next hv =>
            refine ⟨_, _, member_eq_ok_iff.2 ⟨_, _, _, _, _, rfl, hname, hcolon, hv, rfl⟩, ?_⟩
            split at h
            · next hend =>
              cases h
              exact .inl ⟨hend, rfl⟩
            · next hcomma =>
              split at h
              · cases h
              · next hmore =>
                cases h
                exact .inr ⟨_, _, hcomma, hmore, rfl⟩
            · cases h
        · cases h
    · cases h
  · rintro ⟨e, tail, he, hrest⟩
    obtain ⟨afterQuote, name, afterName, afterColon, v, rfl, hname, hcolon, hv, rfl⟩ :=
      member_eq_ok_iff.1 he
    rcases hrest with ⟨hend, rfl⟩ | ⟨rest, more, hcomma, hmore, rfl⟩
    · simp only [members, hname, hcolon, hv, hend]
    · simp only [members, hname, hcolon, hv, hcomma, hmore]

theorem enclosed_list (hroom : room ≠ 0) :
    Enclosed (items b · (room - 1)) (value b · room) .list '[' ']' := by
  intro fuel rest v tail
  constructor
  · intro h
    dsimp only at h
    unfold value at h
    simp only [if_neg hroom] at h
    split at h
    · next hend =>
      cases h
      exact .inl ⟨hend, rfl⟩
    · next hopen =>
      split at h
      · cases h
      · next hmany =>
        cases h
        exact .inr ⟨hopen, _, hmany, rfl⟩
  · rintro (⟨hend, rfl⟩ | ⟨hopen, as, has, rfl⟩)
    · simp only [value, if_neg hroom, hend]
    · dsimp only at has
      simp only [value, if_neg hroom, has]

theorem enclosed_map (hroom : room ≠ 0) :
    Enclosed (members b · (room - 1)) (value b · room) (.map <| ·) '\x7b'
      '\x7d' := by
  intro fuel rest v tail
  constructor
  · intro h
    dsimp only at h
    unfold value at h
    simp only [if_neg hroom] at h
    split at h
    · next hend =>
      cases h
      exact .inl ⟨hend, rfl⟩
    · next hopen =>
      split at h
      · cases h
      · next hmany =>
        cases h
        exact .inr ⟨hopen, _, hmany, rfl⟩
  · rintro (⟨hend, rfl⟩ | ⟨hopen, as, has, rfl⟩)
    · simp only [value, if_neg hroom, hend]
    · dsimp only at has
      simp only [value, if_neg hroom, has]

theorem hasExtent_member (hvalue : ∀ cs tail v, value b fuel room cs = .ok (v, tail) →
      HasExtent (value b · room) 0 cs tail v) {e : List Text.Point × Tree}
    (h : member b fuel room cs = .ok (e, tail)) : HasExtent (member b · room) 0 cs tail e := by
  obtain ⟨afterQuote, name, afterName, afterColon, v, rfl, hname, hcolon, hv, rfl⟩ :=
    member_eq_ok_iff.1 h
  obtain ⟨p, hlast, rfl, hagain⟩ := chars_extent hname
  obtain ⟨q, hq, hq'⟩ := hvalue _ _ _ hv
  refine ⟨'"' :: ((p ++ (gap afterName ++ ':' :: gap afterColon)) ++ q), ?_, .succ (by simp)
    (trimmed_cons_append (by decide) hq'.trimmed hq'.ne_nil) fun k u hu hk => ?_⟩
  · have htail : afterName = gap afterName ++ ':' :: (gap afterColon ++ (q ++ tail)) :=
      (eq_gap_append hcolon).trans (by rw [← eq_gap_append hq])
    simpa using htail
  · simp only [List.cons_append, List.append_assoc] at hk ⊢
    have hafterColon : gap afterColon ++ (q ++ u) <+: afterColon :=
      gap_append_isPrefix hq ((List.prefix_append_right_inj q).2 hu)
    have hafterName : gap afterName ++ ':' :: (gap afterColon ++ (q ++ u)) <+: afterName :=
      gap_append_isPrefix hcolon (List.cons_prefix_cons.2 ⟨rfl, hafterColon⟩)
    refine member_eq_ok_iff.2 ⟨_, name, _, _, v, rfl, hagain _ _ hafterName,
      skipGap_gap_cons (by decide), ?_, rfl⟩
    rw [hq'.skipGap_append]
    exact hq'.again _ u hu (by simp only [List.length_append, List.length_cons] at hk ⊢; omega)

theorem hasExtent_text {s : List Text.Point} (h : chars ('"' :: rest) rest = .ok (s, tail)) :
    HasExtent (value b · room) 0 ('"' :: rest) tail (.text s) := by
  obtain ⟨p, hlast, rfl, hagain⟩ := chars_extent h
  obtain ⟨q, rfl⟩ : ∃ q, p = q ++ ['"'] := List.getLast?_eq_some_iff.1 hlast
  refine ⟨'"' :: (q ++ ['"']), rfl, .succ (by simp)
    (trimmed_cons_append (by decide) (trimmed_singleton (by decide)) (by simp))
    fun k u hu _ => ?_⟩
  have hchars := hagain ('"' :: (q ++ ['"'] ++ u)) u hu
  simp only [List.cons_append, value, hchars]

def isOpening (c : Char) : Bool := c == '"' || c == '[' || c == '\x7b'

theorem value_of_head? (h : ∀ c ∈ cs.head?, isOpening c = false) :
    value b (fuel + 1) room cs =
      match word? cs with
      | some (v, tail) => .ok (v, tail)
      | none => number b cs := by
  unfold value
  split
  · cases h '"' rfl
  · cases h '[' rfl
  · cases h '\x7b' rfl
  · rfl

theorem value_nil : value b (fuel + 1) room [] = .error (.mistake .valueExpected []) := rfl

theorem hasExtent_plain (hhead : ∀ c ∈ cs.head?, isOpening c = false)
    (h : value b (fuel + 1) room cs = .ok (v, tail)) :
    HasExtent (value b · room) 0 cs tail v := by
  obtain ⟨p, hcs, htrimmed, hagain⟩ : ∃ p, cs = p ++ tail ∧ Trimmed isOuter p ∧
      ∀ k u, u <+: tail → value b (k + 1) room (p ++ u) = .ok (v, u) := by
    have hbegin {p u : List Char} (hcs : cs = p ++ tail) (hu : u <+: tail) : p ++ u <+: cs :=
      hcs ▸ (List.prefix_append_right_inj p).2 hu
    rw [value_of_head? hhead] at h
    split at h
    · next hword =>
      cases h
      obtain ⟨p, hp, hcs, hagain⟩ := word?_extent hword
      refine ⟨p, hcs, hp, fun k u hu => ?_⟩
      rw [value_of_head? fun c hc => hhead c (mem_head?_of_isPrefix (hbegin hcs hu) hc), hagain u]
    · next hword =>
      obtain ⟨p, hp, hcs, hagain⟩ := number_extent h
      refine ⟨p, hcs, hp, fun k u hu => ?_⟩
      rw [value_of_head? fun c hc => hhead c (mem_head?_of_isPrefix (hbegin hcs hu) hc),
        word?_eq_none_of_isPrefix (hbegin hcs hu) hword]
      exact hagain u hu
  refine ⟨p, hcs, .succ ?_ htrimmed fun k u hu _ => hagain k u hu⟩
  -- of an empty text nothing can be read
  rintro rfl
  have hempty := hagain 0 [] List.nil_prefix
  rw [List.nil_append, value_nil] at hempty
  cases hempty

/-- Whatever is read with so much fuel has an extent. -/
structure HasExtents (b : Bounds) (fuel : Nat) : Prop where
  value : ∀ room cs tail v, value b fuel room cs = .ok (v, tail) →
    HasExtent (value b · room) 0 cs tail v
  items : ∀ room cs tail vs, items b fuel room cs = .ok (vs, tail) →
    HasExtent (items b · room) 1 cs tail vs
  members : ∀ room cs tail es, members b fuel room cs = .ok (es, tail) →
    HasExtent (members b · room) 1 cs tail es

namespace HasExtents

theorem value_succ (h : HasExtents b fuel) (room : Nat) (cs tail : List Char) (v : Tree)
    (hv : Json.value b (fuel + 1) room cs = .ok (v, tail)) :
    HasExtent (Json.value b · room) 0 cs tail v := by
  -- a list or a map that was read had a level left for it
  have hlevel {start : Char} {rest : List Char} (hcs : cs = start :: rest)
      (hstart : start = '[' ∨ start = '\x7b') : room ≠ 0 := by
    rintro rfl
    rcases hstart with rfl | rfl <;> simp [hcs, Json.value] at hv
  by_cases hhead : ∀ c ∈ cs.head?, isOpening c = false
  · exact hasExtent_plain hhead hv
  · obtain ⟨c, rest, rfl, hc⟩ : ∃ c rest, cs = c :: rest ∧ isOpening c = true := by
      cases cs with
      | nil => simp at hhead
      | cons c rest => exact ⟨c, rest, rfl, by simpa using hhead⟩
    simp only [isOpening, Bool.or_eq_true, beq_iff_eq] at hc
    rcases hc with (rfl | rfl) | rfl
    · simp only [Json.value] at hv
      split at hv
      · cases hv
      · next hchars =>
        cases hv
        exact hasExtent_text hchars
    · exact (enclosed_list (hlevel rfl (.inl rfl))).hasExtent (by decide) (by decide)
        (h.items _) hv
    · exact (enclosed_map (hlevel rfl (.inr rfl))).hasExtent (by decide) (by decide)
        (h.members _) hv

end HasExtents

theorem hasExtents (b : Bounds) (fuel : Nat) : HasExtents b fuel := by
  induction fuel with
  | zero =>
    refine ⟨fun room cs tail v h => ?_, fun room cs tail vs h => ?_, fun room cs tail es h => ?_⟩
    · unfold value at h
      cases h
    · unfold items at h
      cases h
    · unfold members at h
      cases h
  | succ fuel ih =>
    exact ⟨ih.value_succ,
      fun room _ _ _ h => separated_items.hasExtent (by decide) (ih.value room) (ih.items room) h,
      fun room _ _ _ h => separated_members.hasExtent (by decide)
        (fun _ _ _ h => hasExtent_member (ih.value room) h) (ih.members room) h⟩

theorem trimmed_isGap {s : List Char} (h : Trimmed isOuter s) : Trimmed isGap s :=
  h.mono fun _ => isGap_of_isOuter

theorem Extent.document {p : List Char} (h : Extent (value b · b.depth) 0 p tail v) :
    document b p = .ok v := by
  have hgap : skipGap p = p := Text.trimStart_of_head (trimmed_isGap h.trimmed).head
  have hvalue : value b (2 * p.length + 2) b.depth p = .ok (v, []) := by
    simpa using h.again (2 * p.length + 2) [] List.nil_prefix (by simp)
  unfold Json.document
  split
  · exact absurd (h.trimmed.head '\uFEFF' rfl) (by decide)
  · rw [hgap, hvalue]
    rfl

theorem document_trimBy (h : document b cs = .ok v) :
    Text.trimBy isGap cs ≠ [] ∧ Trimmed isOuter (Text.trimBy isGap cs) ∧
      document b (Text.trimBy isGap cs) = .ok v := by
  unfold document at h
  split at h
  · cases h
  · split at h
    · cases h
    · next tail hvalue =>
      split at h
      · next hend =>
        cases h
        obtain ⟨p, hcs, hp⟩ := (hasExtents b _).value _ _ _ _ hvalue
        have htail : tail = gap tail := by simpa using eq_gap_append hend
        have hsplit : cs = gap cs ++ (p ++ gap tail) :=
          (eq_gap_append hcs).trans (by rw [← htail])
        have hwhole : Text.trimBy isGap cs = p :=
          (congrArg (Text.trimBy isGap) hsplit).trans
            (Text.trimBy_append (fun _ => List.mem_takeWhile_imp) (trimmed_isGap hp.trimmed)
              hp.ne_nil fun _ => List.mem_takeWhile_imp)
        rw [hwhole]
        exact ⟨hp.ne_nil, hp.trimmed, hp.document⟩
      · cases h

end IntakeForms.Json
