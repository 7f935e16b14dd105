import IntakeForms.Json.Reader
import IntakeForms.Proofs.Text.Trimming

/-! What the readers of numbers, words and quoted characters take of a text.  Each takes a first
part of it, and takes the same part where only a beginning of the rest follows.  No part that is
a number or a word begins or ends with a blank, a backquote, a letter j or a byte order mark. -/

namespace IntakeForms

open Numeral (isDigit splitSign)
open Text (Trimmed takeWhile_append_of_head? dropWhile_append_of_head?)

namespace Json

def isOuter (c : Char) : Bool := Text.isBlank c || c == '\x60' || c == 'j' || c == '\uFEFF'

variable {α : Type} {f : List Char → α × List Char} {cs p : List Char}

theorem isBlank_of_isOuter {c : Char} (h : isOuter c = false) : Text.isBlank c = false := by
  simp only [isOuter, Bool.or_eq_false_iff] at h
  exact h.1.1.1

theorem isOuter_of_isDigit {c : Char} (h : isDigit c = true) : isOuter c = false := by
  have hrange : 48 ≤ c.toNat ∧ c.toNat ≤ 57 := by
    simpa [isDigit, Char.le_def, UInt32.le_iff_toNat_le] using h
  have hne (d : Char) (hd : 57 < d.toNat) : (c == d) = false :=
    beq_eq_false_iff_ne.2 fun heq => by rw [heq] at hrange; omega
  have hblank : Text.isBlank c = false := by
    simp only [Text.isBlank, Text.isSpace, Bool.or_eq_false_iff, Bool.and_eq_false_iff,
      decide_eq_false_iff_not, beq_eq_false_iff_ne]
    omega
  rw [isOuter, hblank, hne _ (by decide), hne _ (by decide), hne _ (by decide)]
  rfl

/-- Of the text `cs` the scanner takes `p`, also where only a beginning of the rest follows. -/
structure Takes (f : List Char → α × List Char) (cs p : List Char) : Prop where
  split : p ++ (f cs).2 = cs
  again : ∀ u, u <+: (f cs).2 → f (p ++ u) = ((f cs).1, u)
  trimmed : Trimmed isOuter p

theorem Takes.isPrefix (h : Takes f cs p) {u : List Char} (hu : u <+: (f cs).2) :
    p ++ u <+: cs := by
  have happend : p ++ u <+: p ++ (f cs).2 := (List.prefix_append_right_inj p).2 hu
  rwa [h.split] at happend

def digitRun (cs : List Char) : List Char × List Char :=
  (cs.takeWhile isDigit, cs.dropWhile isDigit)

theorem takes_digitRun (cs : List Char) : Takes digitRun cs (digitRun cs).1 where
  split := List.takeWhile_append_dropWhile
  again u hu := by
    have hrun : ∀ c ∈ cs.takeWhile isDigit, isDigit c = true := fun c => List.mem_takeWhile_imp
    have hstop : ∀ c ∈ u.head?, isDigit c = false := fun c hc =>
      Text.head?_trimStart (mem_head?_of_isPrefix hu hc)
    exact Prod.ext (takeWhile_append_of_head? hrun hstop) (dropWhile_append_of_head? hrun hstop)
  trimmed := .of_forall fun c hc => isOuter_of_isDigit (List.mem_takeWhile_imp hc)

theorem digitRun_eq_nil_of_isPrefix {t rest : List Char} (ht : t <+: rest)
    (h : (digitRun rest).1 = []) : (digitRun t).1 = [] := by
  cases t with
  | nil => rfl
  | cons c t =>
    obtain ⟨u, rfl⟩ := ht
    by_cases hc : isDigit c = true
    · simp [digitRun, hc] at h
    · simp [digitRun, hc]

theorem takes_nil {a : α} (h : ∀ u, u <+: cs → f u = (a, u)) : Takes f cs [] where
  split := by rw [h cs List.prefix_rfl, List.nil_append]
  again u hu := by
    rw [h cs List.prefix_rfl] at hu ⊢
    exact h u hu
  trimmed := .of_forall (by simp)

def minusSign (cs : List Char) : Bool × List Char :=
  match cs with
  | '-' :: rest => (true, rest)
  | _ => (false, cs)

theorem minusSign_of_head? (h : ∀ c ∈ cs.head?, c ≠ '-') : minusSign cs = (false, cs) := by
  unfold minusSign
  split
  · exact absurd rfl (h '-' rfl)
  · rfl

theorem takes_minusSign (cs : List Char) : ∃ p, Takes minusSign cs p := by
  by_cases h : ∀ c ∈ cs.head?, c ≠ '-'
  · exact ⟨[], takes_nil fun u hu => minusSign_of_head? fun c hc =>
      h c (mem_head?_of_isPrefix hu hc)⟩
  · obtain ⟨rest, rfl⟩ := exists_cons_of_head? h
    exact ⟨['-'], rfl, fun _ _ => rfl, .of_all (by decide)⟩

theorem wholeDigits_of_head? (h : ∀ c ∈ cs.head?, c ≠ '0') : wholeDigits cs = digitRun cs := by
  unfold wholeDigits
  split
  · exact absurd rfl (h '0' rfl)
  · rfl

theorem takes_wholeDigits (cs : List Char) : ∃ p, Takes wholeDigits cs p := by
  by_cases h : ∀ c ∈ cs.head?, c ≠ '0'
  · have hrun := takes_digitRun cs
    have hcs : wholeDigits cs = digitRun cs := wholeDigits_of_head? h
    refine ⟨_, by rw [hcs]; exact hrun.split, fun u hu => ?_, hrun.trimmed⟩
    rw [hcs] at hu ⊢
    rw [wholeDigits_of_head? fun c hc => h c (mem_head?_of_isPrefix (hrun.isPrefix hu) hc)]
    exact hrun.again u hu
  · obtain ⟨rest, rfl⟩ := exists_cons_of_head? h
    exact ⟨['0'], rfl, fun _ _ => rfl, .of_all (by decide)⟩

theorem fractionDigits_point {rest : List Char} :
    fractionDigits ('.' :: rest) =
      if (digitRun rest).1.isEmpty then ([], '.' :: rest) else digitRun rest := rfl

theorem fractionDigits_of_head? (h : ∀ c ∈ cs.head?, c ≠ '.') : fractionDigits cs = ([], cs) := by
  unfold fractionDigits
  split
  · exact absurd rfl (h '.' rfl)
  · rfl

theorem takes_fractionDigits (cs : List Char) : ∃ p, Takes fractionDigits cs p := by
  by_cases h : ∀ c ∈ cs.head?, c ≠ '.'
  · exact ⟨[], takes_nil fun u hu => fractionDigits_of_head? fun c hc =>
      h c (mem_head?_of_isPrefix hu hc)⟩
  · obtain ⟨rest, rfl⟩ := exists_cons_of_head? h
    by_cases hrun : (digitRun rest).1 = []
    · refine ⟨[], takes_nil (a := []) fun u hu => ?_⟩
      obtain rfl | ⟨t, rfl, ht⟩ := List.prefix_cons_iff.1 hu
      · rfl
      · simp [fractionDigits_point, digitRun_eq_nil_of_isPrefix ht hrun]
    · have hdigits := takes_digitRun rest
      have hcs : fractionDigits ('.' :: rest) = digitRun rest := by
        simp [fractionDigits_point, hrun]
      refine ⟨'.' :: (digitRun rest).1, by rw [hcs, List.cons_append, hdigits.split],
        fun u hu => ?_, (Trimmed.of_all (s := ['.']) (by decide)).append hdigits.trimmed⟩
      rw [hcs] at hu ⊢
      have hagain := hdigits.again u hu
      simp [fractionDigits_point, hagain, hrun]

theorem splitSign_of_head? (hminus : ∀ c ∈ cs.head?, c ≠ '-') (hplus : ∀ c ∈ cs.head?, c ≠ '+') :
    splitSign cs = (false, cs) := by
  unfold splitSign
  split
  · exact absurd rfl (hminus '-' rfl)
  · exact absurd rfl (hplus '+' rfl)
  · rfl

theorem takes_splitSign (cs : List Char) : ∃ p, Takes splitSign cs p := by
  by_cases hminus : ∀ c ∈ cs.head?, c ≠ '-'
  · by_cases hplus : ∀ c ∈ cs.head?, c ≠ '+'
    · exact ⟨[], takes_nil fun u hu => splitSign_of_head?
        (fun c hc => hminus c (mem_head?_of_isPrefix hu hc))
        (fun c hc => hplus c (mem_head?_of_isPrefix hu hc))⟩
    · obtain ⟨rest, rfl⟩ := exists_cons_of_head? hplus
      exact ⟨['+'], rfl, fun _ _ => rfl, .of_all (by decide)⟩
  · obtain ⟨rest, rfl⟩ := exists_cons_of_head? hminus
    exact ⟨['-'], rfl, fun _ _ => rfl, .of_all (by decide)⟩

theorem splitSign_isPrefix {t rest : List Char} (h : t <+: rest) :
    (splitSign t).2 <+: (splitSign rest).2 := by
  cases t with
  | nil => exact List.nil_prefix
  | cons c t =>
    obtain ⟨u, rfl⟩ := h
    by_cases hminus : c = '-'
    · subst hminus
      exact List.prefix_append t u
    · by_cases hplus : c = '+'
      · subst hplus
        exact List.prefix_append t u
      · rw [splitSign_of_head? (by simpa using hminus) (by simpa using hplus),
          splitSign_of_head? (by simpa using hminus) (by simpa using hplus)]
        exact List.prefix_append _ u

theorem exponentPart_cons {e : Char} {rest : List Char} :
    exponentPart (e :: rest) =
      let sign := splitSign rest
      let run := digitRun sign.2
      if (e = 'e' ∨ e = 'E') ∧ ¬run.1.isEmpty then
        (some (if sign.1 then -(Numeral.natOfDigits run.1 : Int) else Numeral.natOfDigits run.1),
          run.2)
      else (none, e :: rest) := rfl

theorem takes_exponentPart (cs : List Char) : ∃ p, Takes exponentPart cs p := by
  cases cs with
  | nil => exact ⟨[], takes_nil fun u hu => by rw [List.prefix_nil.1 hu]; rfl⟩
  | cons e rest =>
    by_cases he : e = 'e' ∨ e = 'E'
    · by_cases hrun : (digitRun (splitSign rest).2).1 = []
      · refine ⟨[], takes_nil (a := none) fun u hu => ?_⟩
        obtain rfl | ⟨t, rfl, ht⟩ := List.prefix_cons_iff.1 hu
        · rfl
        · simp [exponentPart_cons, digitRun_eq_nil_of_isPrefix (splitSign_isPrefix ht) hrun]
      · obtain ⟨sign, hsign⟩ := takes_splitSign rest
        have hdigits := takes_digitRun (splitSign rest).2
        have hletter : Trimmed isOuter [e] := .of_all (by rcases he with rfl | rfl <;> decide)
        refine ⟨[e] ++ sign ++ (digitRun (splitSign rest).2).1, ?_, fun u hu => ?_,
          (hletter.append hsign.trimmed).append hdigits.trimmed⟩
        · simp [exponentPart_cons, he, hrun, hdigits.split, hsign.split]
        · have htail : u <+: (digitRun (splitSign rest).2).2 := by
            simpa [exponentPart_cons, he, hrun] using hu
          have hbody := hsign.again _ (hdigits.isPrefix htail)
          have hagain := hdigits.again u htail
          simp [exponentPart_cons, he, hrun, hbody, hagain]
    · refine ⟨[], takes_nil (a := none) fun u hu => ?_⟩
      obtain rfl | ⟨t, rfl, ht⟩ := List.prefix_cons_iff.1 hu
      · rfl
      · simp [exponentPart_cons, he]

variable {b : Bounds} {v : Tree} {tail : List Char}

def quantity (b : Bounds) (negative : Bool) (whole fraction : List Char) (exponent : Option Int) :
    Except Fault Tree :=
  let n := Numeral.natOfDigits (whole ++ fraction)
  if fraction.isEmpty && exponent.isNone then
    if b.digits < whole.length then .error .tooManyDigits
    else .ok (.int (if negative then -(n : Int) else n))
  else .ok (.real (Binary64.ofDecimal negative n (exponent.getD 0 - fraction.length)))

theorem map_pair_eq_ok {r : Except Fault Tree} {t : List Char} :
    r.map (·, t) = .ok (v, tail) ↔ r = .ok v ∧ t = tail := by
  cases r <;> simp [Except.map]

theorem number_eq (b : Bounds) (cs : List Char) : number b cs =
    let sign := minusSign cs
    let whole := wholeDigits sign.2
    let fraction := fractionDigits whole.2
    let exponent := exponentPart fraction.2
    if whole.1.isEmpty then .error (.mistake .valueExpected cs)
    else (quantity b sign.1 whole.1 fraction.1 exponent.1).map (·, exponent.2) := by
  simp only [quantity, apply_ite (Except.map _)]
  rfl

theorem number_eq_ok_iff : number b cs = .ok (v, tail) ↔
    ∃ sign whole fraction exponent, minusSign cs = sign ∧ wholeDigits sign.2 = whole ∧
      fractionDigits whole.2 = fraction ∧ exponentPart fraction.2 = exponent ∧ whole.1 ≠ [] ∧
      quantity b sign.1 whole.1 fraction.1 exponent.1 = .ok v ∧ exponent.2 = tail := by
  rw [number_eq]
  constructor
  · intro h
    dsimp only at h
    split at h
    · cases h
    · next hwhole =>
      exact ⟨_, _, _, _, rfl, rfl, rfl, rfl, by simpa using hwhole, map_pair_eq_ok.1 h⟩
  · rintro ⟨_, _, _, _, rfl, rfl, rfl, rfl, hwhole, hv, rfl⟩
    dsimp only
    rw [if_neg (by simpa using hwhole), map_pair_eq_ok]
    exact ⟨hv, rfl⟩

theorem number_extent (h : number b cs = .ok (v, tail)) :
    ∃ p, Trimmed isOuter p ∧ cs = p ++ tail ∧ ∀ u, u <+: tail → number b (p ++ u) = .ok (v, u) := by
  obtain ⟨_, _, _, _, rfl, rfl, rfl, rfl, hwhole, hv, rfl⟩ := number_eq_ok_iff.1 h
  obtain ⟨p₁, h₁⟩ := takes_minusSign cs
  obtain ⟨p₂, h₂⟩ := takes_wholeDigits (minusSign cs).2
  obtain ⟨p₃, h₃⟩ := takes_fractionDigits (wholeDigits (minusSign cs).2).2
  obtain ⟨p₄, h₄⟩ := takes_exponentPart (fractionDigits (wholeDigits (minusSign cs).2).2).2
  refine ⟨p₁ ++ (p₂ ++ (p₃ ++ p₄)),
    h₁.trimmed.append (h₂.trimmed.append (h₃.trimmed.append h₄.trimmed)), ?_, fun u hu => ?_⟩
  · simp only [List.append_assoc, h₄.split, h₃.split, h₂.split, h₁.split]
  · have e₃ := h₄.isPrefix hu
    have e₂ := h₃.isPrefix e₃
    have e₁ := h₂.isPrefix e₂
    simp only [List.append_assoc]
    exact number_eq_ok_iff.2 ⟨_, _, _, _, h₁.again _ e₁, h₂.again _ e₂, h₃.again _ e₃,
      h₄.again _ hu, hwhole, hv, rfl⟩

theorem word?_append {name : String} (h : (name, v) ∈ words) (u : List Char) :
    word? (name.toList ++ u) = some (v, u) := by
  simp only [words, List.mem_cons, Prod.mk.injEq, List.not_mem_nil, or_false] at h
  rcases h with ⟨rfl, rfl⟩ | ⟨rfl, rfl⟩ | ⟨rfl, rfl⟩ | ⟨rfl, rfl⟩ | ⟨rfl, rfl⟩ | ⟨rfl, rfl⟩ <;>
    rfl

theorem all_words : ∀ w ∈ words, w.1.toList.all (fun c => !isOuter c) = true := by
  decide

theorem word?_extent (h : word? cs = some (v, tail)) :
    ∃ p, Trimmed isOuter p ∧ cs = p ++ tail ∧ ∀ u, word? (p ++ u) = some (v, u) := by
  obtain ⟨w, hmem, hw⟩ := List.exists_of_findSome?_eq_some h
  obtain ⟨rest, hrest, heq⟩ := Option.map_eq_some_iff.1 hw
  cases heq
  exact ⟨_, Trimmed.of_all (all_words _ hmem),
    (List.isPrefixOf?_eq_some_iff_append_eq.1 hrest).symm, word?_append hmem⟩

theorem word?_eq_none_of_isPrefix {u : List Char} (hu : u <+: cs) (h : word? cs = none) :
    word? u = none := by
  cases hword : word? u with
  | none => rfl
  | some r =>
    obtain ⟨v, rest⟩ := r
    obtain ⟨t, rfl⟩ := hu
    obtain ⟨p, -, rfl, hp⟩ := word?_extent hword
    rw [List.append_assoc, hp] at h
    cases h

theorem pairEscape_of_isPrefix {n k : Nat} {c : Text.Point} {more q : List Char} (hq : q <+: more)
    (hk : k < q.length) (h : pairEscape n more = .ok (c, k)) : pairEscape n q = .ok (c, k) := by
  have htake : q = more.take q.length := List.prefix_iff_eq_take.1 hq
  unfold pairEscape at h ⊢
  split at h
  · next hn =>
    rw [if_pos hn]
    split at h
    · split at h
      · cases h
      · next hunit =>
        split at h
        · next hlow =>
          -- the second unit takes six characters, and one more has to follow them
          have hsix : 6 = k := (Prod.mk.inj (Except.ok.inj h)).2
          obtain ⟨j, hj⟩ : ∃ j, q.length = j + 7 := ⟨q.length - 7, by omega⟩
          rw [hj] at htake
          rw [htake]
          simp only [List.take_succ_cons, hunit, hlow, if_true]
          exact h
        · next hlow =>
          -- a unit without its partner is half of a pair, whether the next one is seen whole or not
          split
          · simp only [List.cons_prefix_cons] at hq
            obtain ⟨-, -, rfl, rfl, rfl, rfl, -⟩ := hq
            simp only [hunit, hlow]
            exact h
          · exact h
    · next hnone =>
      split
      · obtain ⟨r, hr⟩ := hq
        exact (hnone _ _ _ _ _ _ hr.symm).elim
      · exact h
  · next hn =>
    rw [if_neg hn]
    exact h

theorem escape_short {start rest : List Char} {c ch : Char} (hc : c ≠ 'u')
    (h : shortEscape? c = some ch) : escape start (c :: rest) = .ok (.char ch, 1) := by
  unfold escape
  split
  · next heq => cases heq
  · next heq => exact absurd (List.cons.inj heq).1 hc
  · next heq => exact absurd (List.cons.inj heq).1 hc
  · next heq =>
    obtain ⟨rfl, -⟩ := List.cons.inj heq
    rw [h]

theorem escape_of_isPrefix {start start' q : List Char} {c : Text.Point} {n : Nat} (hq : q <+: cs)
    (hn : n < q.length) (h : escape start cs = .ok (c, n)) : escape start' q = .ok (c, n) := by
  have htake : q = cs.take q.length := List.prefix_iff_eq_take.1 hq
  unfold escape at h
  split at h
  · cases h
  · next x y z w next more =>
    split at h
    · cases h
    · next m hunit =>
      cases hpair : pairEscape m (next :: more) with
      | error f =>
        rw [hpair] at h
        cases h
      | ok r =>
        obtain ⟨ch, k⟩ := r
        rw [hpair] at h
        obtain ⟨rfl, rfl⟩ := Prod.mk.inj (Except.ok.inj h)
        obtain ⟨j, hj⟩ : ∃ j, q.length = j + 6 := ⟨q.length - 6, by omega⟩
        obtain ⟨t, rfl, ht⟩ : ∃ t, q = 'u' :: x :: y :: z :: w :: next :: t ∧ t <+: more :=
          ⟨more.take j, by rw [htake, hj]; rfl, List.take_prefix j more⟩
        have hmore : pairEscape m (next :: t) = .ok (ch, k) :=
          pairEscape_of_isPrefix (List.cons_prefix_cons.2 ⟨rfl, ht⟩)
            (by simp only [List.length_cons] at hn ⊢; omega) hpair
        simp only [escape, hunit, hmore]
        rfl
  · cases h
  · next hu =>
    split at h
    · cases h
    · next hshort =>
      obtain ⟨rfl, rfl⟩ := Prod.mk.inj (Except.ok.inj h)
      obtain rfl | ⟨t, rfl, -⟩ := List.prefix_cons_iff.1 hq
      · simp at hn
      · exact escape_short hu hshort

section Chars

variable {start start' rest : List Char} {s : List Text.Point} {n : Nat}

theorem chars_quote : chars start ('"' :: rest) = .ok ([], rest) := by
  rw [chars]

theorem chars_escape {c : Text.Point} (hescape : escape start rest = .ok (c, n))
    (hchars : chars start (rest.drop n) = .ok (s, tail)) :
    chars start ('\\' :: rest) = .ok (c :: s, tail) := by
  rw [chars, hescape]
  dsimp only
  rw [hchars]

theorem chars_plain {c : Char} (hquote : c ≠ '"') (hslash : c ≠ '\\') (hc : ¬c.toNat < 0x20)
    (hchars : chars start rest = .ok (s, tail)) :
    chars start (c :: rest) = .ok (.char c :: s, tail) := by
  rw [chars.eq_4 _ _ _ hquote hslash, if_neg hc, hchars]

theorem chars_extent (h : chars start cs = .ok (s, tail)) :
    ∃ p, p.getLast? = some '"' ∧ cs = p ++ tail ∧
      ∀ start' u, u <+: tail → chars start' (p ++ u) = .ok (s, u) := by
  fun_induction chars start cs generalizing s tail with
  | case1 | case3 | case4 | case6 | case7 => cases h
  | case2 rest =>
    obtain ⟨rfl, rfl⟩ := Prod.mk.inj (Except.ok.inj h)
    exact ⟨['"'], rfl, rfl, fun _ _ _ => chars_quote⟩
  | case5 rest c n hescape s tail hrest ih =>
    obtain ⟨rfl, rfl⟩ := Prod.mk.inj (Except.ok.inj h)
    obtain ⟨p, hlast, hdrop, hagain⟩ := ih hrest
    have hp : 0 < p.length := List.length_pos_iff.2 (by rintro rfl; cases hlast)
    have hlength : rest.length - n = p.length + tail.length := by
      rw [← List.length_drop, hdrop, List.length_append]
    obtain ⟨e, he, rfl⟩ : ∃ e, e.length = n ∧ rest = e ++ (p ++ tail) :=
      ⟨rest.take n, List.length_take_of_le (by omega), by rw [← hdrop, List.take_append_drop]⟩
    refine ⟨'\\' :: (e ++ p), by simp [List.getLast?_cons, hlast], by simp,
      fun start' u hu => ?_⟩
    have hprefix : e ++ (p ++ u) <+: e ++ (p ++ tail) :=
      (List.prefix_append_right_inj e).2 ((List.prefix_append_right_inj p).2 hu)
    have hescape' : escape start' (e ++ (p ++ u)) = .ok (c, n) :=
      escape_of_isPrefix hprefix (by simp only [List.length_append]; omega) hescape
    rw [List.cons_append, List.append_assoc]
    refine chars_escape hescape' ?_
    rw [List.drop_left' he]
    exact hagain start' u hu
  | case8 c rest hquote hslash hc s tail hrest ih =>
    obtain ⟨rfl, rfl⟩ := Prod.mk.inj (Except.ok.inj h)
    obtain ⟨p, hlast, rfl, hagain⟩ := ih hrest
    refine ⟨c :: p, ?_, rfl, fun start' u hu => chars_plain hquote hslash hc (hagain start' u hu)⟩
    rw [List.getLast?_cons, hlast]
    rfl

end Chars

end Json

end IntakeForms
