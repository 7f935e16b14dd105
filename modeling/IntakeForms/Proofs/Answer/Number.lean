import IntakeForms.Answer.Schema
import Mathlib

/-! Answers that are read as numbers.  A number is read as itself, and a text as the number
that it writes.  A text that is both a truth value and a number is the same truth value as
the number it writes. -/

namespace IntakeForms

namespace Numeral

theorem toNat_of_isAlpha {c : Char} (h : c.isAlpha = true) :
    (65 ≤ c.toNat ∧ c.toNat ≤ 90) ∨ (97 ≤ c.toNat ∧ c.toNat ≤ 122) := by
  simp only [Char.isAlpha, Char.isUpper, Char.isLower, Bool.or_eq_true, Bool.and_eq_true,
    decide_eq_true_eq, ge_iff_le, UInt32.le_iff_toNat_le] at h
  exact h

theorem ne_of_isAlpha {c d : Char} (h : c.isAlpha = true) (hd : d.isAlpha = false) : c ≠ d := by
  rintro rfl
  exact absurd h (by simp [hd])

theorem isAlpha_of_toLower {c : Char} (h : c.toLower.isLower = true) : c.isAlpha = true := by
  unfold Char.toLower at h
  split at h
  · next hupper => exact Bool.or_eq_true_iff.2 (.inl (decide_eq_true hupper))
  · exact Bool.or_eq_true_iff.2 (.inr h)

theorem eq_of_toLower {c d : Char} (h : c.toLower = d) (hd : d.isLower = false) : c = d := by
  unfold Char.toLower at h
  split at h
  · next hupper =>
    -- A letter made small would be a small letter.
    subst h
    simp only [Char.isLower, ge_iff_le, UInt32.le_iff_toNat_le, UInt32.toNat_add, Bool.and_eq_false_iff,
      decide_eq_false_iff_not] at hd hupper
    change 65 ≤ c.toNat ∧ c.toNat ≤ 90 at hupper
    change ¬ 97 ≤ (c.toNat + 32) % 4294967296 ∨ ¬ (c.toNat + 32) % 4294967296 ≤ 122 at hd
    omega
  · exact h

theorem isSpace_of_isAlpha {c : Char} (h : c.isAlpha = true) : Text.isSpace c = false := by
  have hc := toNat_of_isAlpha h
  simp only [Text.isSpace, Bool.or_eq_false_iff, Bool.and_eq_false_iff, decide_eq_false_iff_not,
    beq_eq_false_iff_ne]
  omega

theorem isDigit_of_isAlpha {c : Char} (h : c.isAlpha = true) : isDigit c = false := by
  have hc := toNat_of_isAlpha h
  have hnine : ¬ c ≤ '9' := by
    rw [Char.le_def, UInt32.le_iff_toNat_le]
    change ¬ c.toNat ≤ 57
    omega
  simp [isDigit, hnine]

theorem trimBy_of_isAlpha {cs : List Char} (h : ∀ c ∈ cs, c.isAlpha = true) :
    Text.trimBy Text.isSpace cs = cs :=
  Text.trimBy_of_trimmed
    ⟨fun c hc => isSpace_of_isAlpha (h c (List.mem_of_mem_head? hc)),
      fun c hc => isSpace_of_isAlpha (h c (List.mem_of_mem_getLast? hc))⟩

theorem ungrouped_of_isAlpha {cs : List Char} (h : ∀ c ∈ cs, c.isAlpha = true) :
    ungrouped cs = cs := by
  rw [ungrouped]
  split
  · exact List.filter_eq_self.2 fun c hc => by simpa using ne_of_isAlpha (h c hc) (by decide)
  · rfl

theorem whole_of_isAlpha {s : String} (h : ∀ c ∈ s.toList, c.isAlpha = true) :
    whole s = .error .malformed := by
  rw [whole, trimBy_of_isAlpha h]
  cases hs : s.toList with
  | nil => rfl
  | cons c rest =>
    have hc : c.isAlpha = true := h c (hs ▸ List.mem_cons_self)
    have hplus : c ≠ '+' := ne_of_isAlpha hc (by decide)
    have hminus : c ≠ '-' := ne_of_isAlpha hc (by decide)
    have hzero : c ≠ '0' := ne_of_isAlpha hc (by decide)
    have hsign : withoutPlus? (c :: rest) = some (c :: rest) := by simp [withoutPlus?, hplus]
    simp [hsign, significant?, hzero, isDigit_of_isAlpha hc, hminus]

theorem plain?_of_isAlpha {cs : List Char} (h : ∀ c ∈ cs, c.isAlpha = true)
    (hname : String.ofList (cs.map Char.toLower) ∉ ["inf", "infinity", "nan"]) :
    plain? cs = none := by
  simp only [List.mem_cons, List.not_mem_nil, or_false, not_or] at hname
  cases cs with
  | nil => rfl
  | cons c rest =>
    have hc := h c List.mem_cons_self
    have hplus : c ≠ '+' := ne_of_isAlpha hc (by decide)
    have hminus : c ≠ '-' := ne_of_isAlpha hc (by decide)
    have hpoint : c ≠ '.' := ne_of_isAlpha hc (by decide)
    have hsign : splitSign (c :: rest) = (false, c :: rest) := by simp [splitSign, hplus, hminus]
    rw [plain?, hsign]
    dsimp only
    rw [if_neg (not_or.2 ⟨hname.1, hname.2.1⟩), if_neg hname.2.2, unsigned?,
      List.takeWhile_cons_of_neg (by simp [isDigit_of_isAlpha hc]),
      List.dropWhile_cons_of_neg (by simp [isDigit_of_isAlpha hc])]
    simp [hpoint]

theorem real?_of_isAlpha {s : String} (h : ∀ c ∈ s.toList, c.isAlpha = true)
    (hname : String.ofList (s.toList.map Char.toLower) ∉ ["inf", "infinity", "nan"]) :
    real? s = none := by
  rw [real?, trimBy_of_isAlpha h, ungrouped_of_isAlpha h, plain?_of_isAlpha h hname]

end Numeral

namespace Answer

open Schema

def asNumber (v : Value) : Value := (number? v).getD v

theorem number?_cases {v n : Value} (h : number? v = some n) :
    (∃ m, n = .int m) ∨ ∃ x : Binary64, x.isFinite = true ∧ n = .real x := by
  unfold number? at h
  split at h
  · exact .inl ⟨_, (Option.some.inj h).symm⟩
  · split at h
    · next hx => exact .inr ⟨_, hx, (Option.some.inj h).symm⟩
    · cases h
  · split at h
    · exact .inl ⟨_, (Option.some.inj h).symm⟩
    · split at h
      · split at h
        · next hx => exact .inr ⟨_, hx, (Option.some.inj h).symm⟩
        · cases h
      · cases h
  · cases h

theorem number?_number? {v n : Value} (h : number? v = some n) : number? n = some n := by
  rcases number?_cases h with ⟨m, rfl⟩ | ⟨x, hx, rfl⟩
  · rfl
  · simp [number?, hx]

theorem asNumber_of_none {v : Value} (h : number? v = none) : asNumber v = v := by
  rw [asNumber, h, Option.getD_none]

theorem asNumber_of_some {v n : Value} (h : number? v = some n) : asNumber v = n := by
  rw [asNumber, h, Option.getD_some]

theorem asNumber_asNumber (v : Value) : asNumber (asNumber v) = asNumber v := by
  cases h : number? v with
  | none => rw [asNumber_of_none h, asNumber_of_none h]
  | some n => rw [asNumber_of_some h, asNumber_of_some (number?_number? h)]

theorem number?_of_blank {v : Value} (h : v.blank = true) : number? v = none := by
  cases v with
  | text s =>
    have hs : s = "" := by simpa [Value.blank] using h
    rw [hs]
    rfl
  | null | list | map => rfl
  | _ => simp [Value.blank] at h

theorem number?_of_isLower {s : String} (h : ∀ c ∈ s.toList.map Char.toLower, c.isLower = true)
    (hname : String.ofList (s.toList.map Char.toLower) ∉ ["inf", "infinity", "nan"]) :
    number? (.text s) = none := by
  have halpha : ∀ c ∈ s.toList, c.isAlpha = true :=
    fun c hc => Numeral.isAlpha_of_toLower (h _ (List.mem_map_of_mem hc))
  rw [number?, Numeral.whole_of_isAlpha halpha, Numeral.real?_of_isAlpha halpha hname]

theorem eq_of_map_toLower {s : String} {d : Char} (h : s.toList.map Char.toLower = [d])
    (hd : d.isLower = false) : s = String.ofList [d] := by
  obtain ⟨c, hs, hc⟩ := List.map_eq_singleton_iff.1 h
  rw [← Numeral.eq_of_toLower hc hd, ← hs, String.ofList_toList]

/-- A text that is one of some words or one other character, whatever the size of its letters,
writes no number unless it is that character. -/
theorem number?_of_mem_words {s : String} {d : Char} {words : List String}
    (hmem : String.ofList (s.toList.map Char.toLower) ∈ String.ofList [d] :: words)
    (hd : d.isLower = false)
    (hwords : ∀ w ∈ words, (∀ c ∈ w.toList, c.isLower = true) ∧ w ∉ ["inf", "infinity", "nan"]) :
    number? (.text s) = none ∨ s = String.ofList [d] := by
  rcases List.mem_cons.1 hmem with hs | hmem
  · exact .inr (eq_of_map_toLower (String.ofList_injective hs) hd)
  · obtain ⟨hlower, hname⟩ := hwords _ hmem
    rw [String.toList_ofList] at hlower
    exact .inl (number?_of_isLower hlower hname)

theorem number?_of_flagWord? {s : String} {b : Bool} (h : Shape.flagWord? s = some b) :
    number? (.text s) = none ∨ number? (.text s) = some (.int (if b then 1 else 0)) := by
  unfold Shape.flagWord? at h
  dsimp only at h
  split at h
  · next hmem =>
    cases h
    rcases number?_of_mem_words (d := '0') hmem (by decide) (by simp) with hnone | rfl
    · exact .inl hnone
    · exact .inr rfl
  · split at h
    · next hmem =>
      cases h
      rcases number?_of_mem_words (d := '1') hmem (by decide) (by simp) with hnone | rfl
      · exact .inl hnone
      · exact .inr rfl
    · cases h

theorem flag_of_number? {v n : Value} {b : Bool} (h : Shape.flag v = .ok b)
    (hn : number? v = some n) : Shape.flag n = .ok b := by
  cases v with
  | int m =>
    cases hn
    exact h
  | real x =>
    have hx : n = .real x := by
      rw [number?] at hn
      split at hn
      · exact (Option.some.inj hn).symm
      · cases hn
    rw [hx, h]
  | text s =>
    simp only [Shape.flag] at h
    cases hword : Shape.flagWord? s with
    | none => simp [hword, Parsed.fail] at h
    | some c =>
      rw [hword] at h
      cases h
      rcases number?_of_flagWord? hword with hnone | hsome
      · rw [hnone] at hn
        cases hn
      · rw [hsome] at hn
        cases hn
        cases b <;> rfl
  | _ => cases hn

end Answer

end IntakeForms
