import IntakeForms.Proofs.Time.Calendar
import IntakeForms.Shape.Scalar
import Mathlib

/-! Moments as text.  A valid moment is read from its written form as it is; and whatever is
read from a document as a moment, be it text or a number of seconds, is valid. -/

namespace IntakeForms

namespace Numeral

theorem natOfDigits_append (ds : List Char) (c : Char) :
    natOfDigits (ds ++ [c]) = 10 * natOfDigits ds + digitValue c := by
  simp [natOfDigits]

theorem digitValue_lt {c : Char} (h : isDigit c = true) : digitValue c < 10 := by
  simp only [isDigit, Bool.and_eq_true, decide_eq_true_eq, Char.le_def, UInt32.le_iff_toNat_le] at h
  have h1 : c.toNat ≤ 57 := h.2
  simp only [digitValue]
  omega

theorem natOfDigits_lt (ds : List Char) (h : ds.all isDigit = true) :
    natOfDigits ds < 10 ^ ds.length := by
  induction ds using List.reverseRecOn with
  | nil => decide
  | append_singleton ds c ih =>
    simp only [List.all_append, Bool.and_eq_true, List.all_cons, List.all_nil, Bool.and_true] at h
    have hc := digitValue_lt h.2
    have hds := ih h.1
    rw [natOfDigits_append, List.length_append, List.length_singleton, Nat.pow_succ]
    omega

theorem isDigit_ofNat {n : Nat} (h : n < 10) : isDigit (Char.ofNat (48 + n)) = true := by
  have : ∀ n < 10, isDigit (Char.ofNat (48 + n)) = true := by decide
  exact this n h

theorem digitValue_ofNat {n : Nat} (h : n < 10) : digitValue (Char.ofNat (48 + n)) = n := by
  have : ∀ n < 10, digitValue (Char.ofNat (48 + n)) = n := by decide
  exact this n h

end Numeral

namespace Timestamp

open Numeral

@[simp] theorem length_padded (w n : Nat) : (padded w n).length = w := by
  induction w generalizing n with
  | zero => rfl
  | succ w ih => simp [padded, ih]

theorem all_isDigit_padded (w n : Nat) : (padded w n).all isDigit = true := by
  induction w generalizing n with
  | zero => rfl
  | succ w ih => simp [padded, ih, isDigit_ofNat (Nat.mod_lt n (by decide : 0 < 10))]

theorem natOfDigits_padded {w n : Nat} (h : n < 10 ^ w) : natOfDigits (padded w n) = n := by
  induction w generalizing n with
  | zero =>
    obtain rfl : n = 0 := by simpa using h
    rfl
  | succ w ih =>
    have hn : n / 10 < 10 ^ w := by
      rw [Nat.pow_succ] at h
      omega
    rw [padded, natOfDigits_append, ih hn, digitValue_ofNat (Nat.mod_lt n (by decide))]
    omega

theorem digits?_padded {w n : Nat} (h : n < 10 ^ w) (rest : List Char) :
    digits? w (padded w n ++ rest) = some (n, rest) := by
  have htake : (padded w n ++ rest).take w = padded w n := by
    rw [List.take_append_of_le_length (by simp), List.take_of_length_le (by simp)]
  have hdrop : (padded w n ++ rest).drop w = rest := by
    rw [List.drop_append_of_le_length (by simp), List.drop_of_length_le (by simp), List.nil_append]
  simp only [digits?, htake, hdrop, length_padded, all_isDigit_padded, natOfDigits_padded h,
    true_and, if_true]

theorem lt_of_digits? {w n : Nat} {cs rest : List Char} (h : digits? w cs = some (n, rest)) :
    n < 10 ^ w := by
  simp only [digits?] at h
  split_ifs at h with hd
  · obtain ⟨rfl, -⟩ := Prod.mk.inj (Option.some.inj h)
    have := natOfDigits_lt _ hd.2
    rwa [hd.1] at this

@[simp] theorem sign?_cons (c : Char) (rest : List Char) : sign? c (c :: rest) = some rest := by
  simp [sign?]

theorem date?_date {t : Timestamp} (h : t.Valid) (rest : List Char) :
    date? (t.date ++ rest) = some ((t.year, t.month, t.day), rest) := by
  have hy : t.year < 10 ^ 4 := h.year_lt
  have hm : t.month < 10 ^ 2 := Nat.lt_of_le_of_lt h.month_le (by decide)
  have hd : t.day < 10 ^ 2 := by
    have := h.day_le
    have : daysInMonth t.year t.month ≤ 31 := by
      simp only [daysInMonth]
      split_ifs <;> decide
    have : 10 ^ 2 = 100 := rfl
    omega
  simp [date?, date, digits?_padded hy, digits?_padded hm, digits?_padded hd, h.month_pos,
    h.month_le, h.day_pos, h.day_le]

def zone : Option Int → List Char
  | none => []
  | some o => if o = 0 then ['Z'] else hoursMinutes o

theorem iso_eq (t : Timestamp) :
    t.iso = String.ofList (t.date ++ 'T' :: t.clock ++ zone t.offset) := rfl

theorem offset?_hoursMinutes {o : Int} (h : o.natAbs < 1440) :
    offset? (hoursMinutes o) = some (some o) := by
  obtain ⟨hours, hhours⟩ : ∃ n, o.natAbs / 60 = n := ⟨_, rfl⟩
  obtain ⟨minutes, hminutes⟩ : ∃ n, o.natAbs % 60 = n := ⟨_, rfl⟩
  have hh : hours < 10 ^ 2 := by omega
  have hm : minutes < 10 ^ 2 := by omega
  have hread : digits? 2 (padded 2 minutes) = some (minutes, []) := by
    simpa using digits?_padded hm []
  have hh' : hours < 24 := by omega
  have hm' : minutes < 60 := by omega
  rcases Int.lt_or_le o 0 with hneg | hpos
  · have ho : -((hours * 60 : Int) + minutes) = o := by omega
    simp [offset?, hoursMinutes, hneg, hhours, hminutes, digits?_padded hh, hread, hm', hh']
    omega
  · have ho : (hours * 60 : Int) + minutes = o := by omega
    simp [offset?, hoursMinutes, Int.not_lt.2 hpos, hhours, hminutes, digits?_padded hh, hread, hm',
      hh', ho]

theorem offset?_zone {offset : Option Int} (h : ∀ o ∈ offset, o.natAbs < 1440) :
    offset? (zone offset) = some offset := by
  cases offset with
  | none => rfl
  | some o =>
    by_cases h0 : o = 0
    · subst h0
      rfl
    · simpa [zone, h0] using offset?_hoursMinutes (h o rfl)

theorem fraction?_zone (offset : Option Int) : fraction? (zone offset) = some (0, zone offset) := by
  cases offset with
  | none => rfl
  | some o =>
    by_cases h0 : o = 0
    · simp [zone, h0, fraction?]
    · by_cases hneg : o < 0 <;> simp [zone, h0, hoursMinutes, hneg, fraction?]

theorem takeWhile_padded (w n : Nat) (offset : Option Int) :
    (padded w n ++ zone offset).takeWhile isDigit = padded w n := by
  have hdigits : ∀ c ∈ padded w n, isDigit c = true := List.all_eq_true.1 (all_isDigit_padded w n)
  rw [List.takeWhile_append_of_pos hdigits]
  have hzone : (zone offset).takeWhile isDigit = [] := by
    cases offset with
    | none => rfl
    | some o =>
      by_cases h0 : o = 0
      · simp [zone, h0, isDigit]
      · by_cases hneg : o < 0 <;> simp [zone, h0, hoursMinutes, hneg, isDigit]
  rw [hzone, List.append_nil]

theorem fraction?_padded {us : Nat} (h : us < 1000000) (offset : Option Int) :
    fraction? ('.' :: (padded 6 us ++ zone offset)) = some (us, zone offset) := by
  have hdrop : (padded 6 us ++ zone offset).dropWhile isDigit = zone offset := by
    have := List.takeWhile_append_dropWhile (p := isDigit) (l := padded 6 us ++ zone offset)
    rw [takeWhile_padded] at this
    exact List.append_cancel_left this
  have h6 : us < 10 ^ 6 := by omega
  have hempty : (padded 6 us).isEmpty = false :=
    List.isEmpty_eq_false_iff.2 (List.ne_nil_of_length_pos (by simp))
  have htake : (padded 6 us).take 6 = padded 6 us := List.take_of_length_le (by simp)
  simp only [fraction?, true_or, if_true, takeWhile_padded, hdrop, hempty, htake, length_padded,
    Nat.sub_self, List.replicate_zero, List.append_nil, natOfDigits_padded h6, Bool.false_eq_true,
    if_false]

theorem seconds?_clock {s us : Nat} (hs : s < 60) (hus : us < 1000000) (offset : Option Int) :
    seconds? (':' :: padded 2 s ++ (if us = 0 then [] else '.' :: padded 6 us) ++ zone offset) =
      some ((s, us), zone offset) := by
  have hs' : s < 10 ^ 2 := by omega
  by_cases h0 : us = 0
  · simp [seconds?, h0, digits?_padded hs', fraction?_zone, hs]
  · simp [seconds?, h0, digits?_padded hs', fraction?_padded hus, hs]

theorem ofIso?_iso {t : Timestamp} (h : t.Valid) : ofIso? t.iso.toList = some t := by
  have hh : t.hour < 10 ^ 2 := Nat.lt_trans h.hour_lt (by decide)
  have hm : t.minute < 10 ^ 2 := Nat.lt_trans h.minute_lt (by decide)
  have hsec := seconds?_clock h.second_lt h.micro_lt t.offset
  simp only [List.cons_append, List.append_assoc] at hsec
  rw [iso_eq, String.toList_ofList]
  simp [ofIso?, date?_date h, isSeparator, clock, digits?_padded hh, digits?_padded hm, hsec,
    offset?_zone h.offset_lt, h.hour_lt, h.minute_lt]

theorem ofText?_iso {t : Timestamp} (h : t.Valid) : ofText? t.iso = some t := by
  simp only [ofText?, ofIso?_iso h]

theorem inYears?_valid {us : Int} {t : Timestamp} (h : inYears? us = some t) (hy : t.year ≠ 0) :
    t.Valid := by
  simp only [inYears?] at h
  split_ifs at h with hrange
  obtain rfl := Option.some.inj h
  exact ofMicros_valid hrange.1 hrange.2 hy

theorem ofWhole?_valid {n : Int} {t : Timestamp} (h : ofWhole? n = some t) (hy : t.year ≠ 0) :
    t.Valid :=
  inYears?_valid h hy

theorem ofReal?_valid {x : Binary64} {t : Timestamp} (h : ofReal? x = some t) (hy : t.year ≠ 0) :
    t.Valid := by
  simp only [ofReal?] at h
  split_ifs at h
  · exact inYears?_valid h hy
  · exact inYears?_valid h hy

theorem ofNumeral?_valid {cs : List Char} {t : Timestamp} (h : ofNumeral? cs = some t)
    (hy : t.year ≠ 0) : t.Valid := by
  rcases hs : splitSign cs with ⟨negative, body⟩
  simp only [ofNumeral?, hs] at h
  generalize (if negative = true then _ else _ : Int) = n at h
  split at h
  · split at h
    · split at h
      · cases h
      · exact ofWhole?_valid h hy
    · obtain ⟨x, -, hx⟩ := Option.bind_eq_some_iff.1 h
      exact ofReal?_valid hx hy
    · cases h
  · cases h

theorem date?_valid {cs rest : List Char} {y m d : Nat} (h : date? cs = some ((y, m, d), rest)) :
    y < 10000 ∧ 1 ≤ m ∧ m ≤ 12 ∧ 1 ≤ d ∧ d ≤ daysInMonth y m := by
  simp only [date?, Option.bind_eq_bind, Option.bind_eq_some_iff] at h
  obtain ⟨⟨y', cs₁⟩, hy, cs₂, -, ⟨m', cs₃⟩, -, cs₄, -, ⟨d', cs₅⟩, -, h⟩ := h
  split_ifs at h with hd
  simp only [Option.pure_def, Option.some.injEq, Prod.mk.injEq] at h
  obtain ⟨⟨rfl, rfl, rfl⟩, -⟩ := h
  exact ⟨lt_of_digits? hy, hd⟩

theorem fraction?_lt {cs rest : List Char} {us : Nat} (h : fraction? cs = some (us, rest)) :
    us < 1000000 := by
  cases cs with
  | nil =>
    obtain ⟨rfl, -⟩ := Prod.mk.inj (Option.some.inj h)
    decide
  | cons c cs =>
    simp only [fraction?] at h
    split_ifs at h
    · obtain ⟨rfl, -⟩ := Prod.mk.inj (Option.some.inj h)
      obtain ⟨ds, hds⟩ : ∃ ds, cs.takeWhile isDigit = ds := ⟨_, rfl⟩
      have hdigits : (ds.take 6 ++ List.replicate (6 - ds.length) '0').all isDigit = true := by
        have hall : ds.all isDigit = true := hds ▸ List.all_takeWhile
        simp only [List.all_append, Bool.and_eq_true, List.all_eq_true] at hall ⊢
        refine ⟨fun c hc => hall c (List.mem_of_mem_take hc), fun c hc => ?_⟩
        rw [List.eq_of_mem_replicate hc]
        decide
      have hlength : (ds.take 6 ++ List.replicate (6 - ds.length) '0').length = 6 := by
        simp only [List.length_append, List.length_take, List.length_replicate]
        omega
      rw [hds]
      have := natOfDigits_lt _ hdigits
      rwa [hlength] at this
    · obtain ⟨rfl, -⟩ := Prod.mk.inj (Option.some.inj h)
      decide

theorem seconds?_valid {cs rest : List Char} {s us : Nat} (h : seconds? cs = some ((s, us), rest)) :
    s < 60 ∧ us < 1000000 := by
  unfold seconds? at h
  split at h
  · simp only [Option.bind_eq_bind, Option.bind_eq_some_iff] at h
    obtain ⟨⟨s', cs₁⟩, -, ⟨us', cs₂⟩, hus, h⟩ := h
    split_ifs at h with hs
    simp only [Option.pure_def, Option.some.injEq, Prod.mk.injEq] at h
    obtain ⟨⟨rfl, rfl⟩, -⟩ := h
    exact ⟨hs, fraction?_lt hus⟩
  · simp only [Option.some.injEq, Prod.mk.injEq] at h
    obtain ⟨⟨rfl, rfl⟩, -⟩ := h
    decide

theorem offset?_valid {cs : List Char} {offset : Option Int} (h : offset? cs = some offset) :
    ∀ o ∈ offset, o.natAbs < 1440 := by
  cases cs with
  | nil =>
    obtain rfl := Option.some.inj h
    simp
  | cons c cs =>
    simp only [offset?, Option.bind_eq_bind, Option.pure_def] at h
    split at h
    · obtain rfl := Option.some.inj h
      simp
    · split at h
      · obtain ⟨⟨hours, cs₁⟩, -, h⟩ := Option.bind_eq_some_iff.1 h
        obtain ⟨⟨minutes, cs₂⟩, -, h⟩ := Option.bind_eq_some_iff.1 h
        split at h
        · next hlt =>
          obtain rfl := Option.some.inj h
          rintro o ho
          obtain rfl := Option.some.inj ho
          obtain ⟨-, hminutes, hhours⟩ := hlt
          simp only at hminutes hhours
          split <;> omega
        · cases h
      · cases h

theorem ofIso?_valid {cs : List Char} {t : Timestamp} (h : ofIso? cs = some t) (hy : t.year ≠ 0) :
    t.Valid := by
  simp only [ofIso?, Option.bind_eq_bind, Option.bind_eq_some_iff] at h
  obtain ⟨⟨⟨y, mo, d⟩, cs₁⟩, hdate, h⟩ := h
  obtain ⟨d1, d2, d3, d4, d5⟩ := date?_valid hdate
  split at h
  · obtain rfl := Option.some.inj h
    exact ⟨Nat.one_le_iff_ne_zero.2 hy, d1, d2, d3, d4, d5, Nat.zero_lt_succ _, Nat.zero_lt_succ _,
      Nat.zero_lt_succ _, Nat.zero_lt_succ _, by simp⟩
  · split_ifs at h
    simp only [Option.bind_eq_some_iff] at h
    obtain ⟨⟨hour, cs₂⟩, -, cs₃, -, ⟨minute, cs₄⟩, -, ⟨⟨s, us⟩, cs₅⟩, hsec, o, hoff, h⟩ := h
    split_ifs at h with hclock
    obtain rfl := Option.some.inj h
    obtain ⟨hs, hus⟩ := seconds?_valid hsec
    exact ⟨Nat.one_le_iff_ne_zero.2 hy, d1, d2, d3, d4, d5, hclock.1, hclock.2, hs, hus,
      offset?_valid hoff⟩

theorem ofText?_valid {s : String} {t : Timestamp} (h : ofText? s = some t) (hy : t.year ≠ 0) :
    t.Valid := by
  unfold ofText? at h
  split at h
  · next hiso =>
    obtain rfl := Option.some.inj h
    exact ofIso?_valid hiso hy
  · exact ofNumeral?_valid h hy

end Timestamp

namespace Shape

theorem moment_iso {t : Timestamp} (h : t.Valid) : moment (.text t.iso) = .ok t := by
  have hy : t.year ≠ 0 := Nat.one_le_iff_ne_zero.1 h.year_pos
  simp [moment, Timestamp.ofText?_iso h, hy]

theorem year_ne_zero_of_dated {v : Value} {fault : Fault} {found : Option Timestamp} {t : Timestamp}
    (h : (match found with
      | some t => if t.year = 0 then Parsed.fail .momentRange v else .ok t
      | none => .fail fault v) = .ok t) :
    found = some t ∧ t.year ≠ 0 := by
  cases found with
  | none => cases h
  | some u =>
    simp only at h
    split at h
    · cases h
    · next hy =>
      cases h
      exact ⟨rfl, hy⟩

theorem moment_valid {v : Value} {t : Timestamp} (hv : v.isDocument = true)
    (h : moment v = .ok t) : t.Valid := by
  cases v with
  | moment => cases hv
  | text s =>
    obtain ⟨hfound, hy⟩ := year_ne_zero_of_dated h
    exact Timestamp.ofText?_valid hfound hy
  | int n =>
    simp only [moment] at h
    split at h
    · obtain ⟨hfound, hy⟩ := year_ne_zero_of_dated h
      exact Timestamp.ofWhole?_valid hfound hy
    · split at h <;> cases h
  | real x =>
    obtain ⟨hfound, hy⟩ := year_ne_zero_of_dated h
    exact Timestamp.ofReal?_valid hfound hy
  | _ => cases h

end Shape

end IntakeForms
