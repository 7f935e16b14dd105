import IntakeForms.Time.Timestamp
import Mathlib.Tactic.IntervalCases

/-! The civil calendar.  A day number is split into an era of 400 years, a year of it that
begins in March, and a day of that year; what comes out is a month of twelve and a day that
this month has.  So every moment from the year 1 to the year 9999 is a valid one. -/

namespace IntakeForms.Timestamp

theorem yearOfEra_bounds {d y : Int} (h0 : 0 ≤ d) (h1 : d < 146097)
    (hy : (d - d / 1460 + d / 36524 - d / 146096) / 365 = y) :
    0 ≤ y ∧ y < 400 ∧ 0 ≤ d - (365 * y + y / 4 - y / 100) ∧
      d - (365 * y + y / 4 - y / 100) ≤ 365 ∧
        (d - (365 * y + y / 4 - y / 100) = 365 →
          (y + 1) % 4 = 0 ∧ ((y + 1) % 100 ≠ 0 ∨ (y + 1) % 400 = 0)) := by
  rcases Int.lt_or_le d 146096 with hd | hd
  · have hlast : d / 146096 = 0 := by omega
    rw [hlast] at hy
    have hcentury : y / 100 = d / 36524 := by omega
    -- In four years one day has been counted too many until a leap day makes up for it.
    rcases Int.lt_or_le (d % 1460) (d / 1460 - d / 36524) with hr | hr
    · have hfour : y = 4 * (d / 1460) - 1 := by omega
      refine ⟨?_, ?_, ?_, ?_, ?_⟩ <;> omega
    · have hfour : y / 4 = d / 1460 := by omega
      refine ⟨?_, ?_, ?_, ?_, ?_⟩ <;> omega
  · obtain rfl : d = 146096 := by omega
    subst hy
    decide

theorem leapYear_of_mod {y : Nat} (h4 : y % 4 = 0) (h100 : y % 100 ≠ 0 ∨ y % 400 = 0) :
    leapYear y = true := by
  simp [leapYear, h4, h100]

theorem le_daysInMonth (y : Nat) {mp : Nat} (h : mp < 11) :
    (153 * (mp + 1) + 2) / 5 - (153 * mp + 2) / 5 ≤
      daysInMonth y (if mp < 10 then mp + 3 else mp - 9) := by
  interval_cases mp <;> simp [daysInMonth]

theorem le_daysInFebruary (y : Nat) : 28 ≤ daysInMonth y 2 := by
  simp only [daysInMonth, if_true]
  split <;> decide

theorem day_le_daysInMonth {doy : Int} {y : Nat} (h0 : 0 ≤ doy) (h1 : doy ≤ 365)
    (hleap : doy = 365 → leapYear y = true) {mp m : Int}
    (hmp : (5 * doy + 2) / 153 = mp) (hm : (if mp < 10 then mp + 3 else mp - 9) = m) :
    1 ≤ m ∧ m ≤ 12 ∧ 1 ≤ doy - (153 * mp + 2) / 5 + 1 ∧
      (doy - (153 * mp + 2) / 5 + 1).toNat ≤ daysInMonth y m.toNat := by
  obtain ⟨n, rfl⟩ : ∃ n : Nat, mp = n := ⟨mp.toNat, by omega⟩
  refine ⟨by split at hm <;> omega, by split at hm <;> omega, by omega, ?_⟩
  rcases Nat.lt_or_ge n 11 with hn | hn
  · have hmonth : m.toNat = if n < 10 then n + 3 else n - 9 := by
      rw [← hm]
      split <;> split <;> omega
    rw [hmonth]
    have hfirst : (153 * (n : Int) + 2) / 5 = ((153 * n + 2) / 5 : Nat) := by push_cast; rfl
    have hlast : doy < ((153 * (n + 1) + 2) / 5 : Nat) := by omega
    rw [hfirst]
    have := le_daysInMonth y hn
    omega
  · obtain rfl : n = 11 := by omega
    obtain rfl : m = 2 := by simpa using hm.symm
    by_cases hd : doy = 365
    · simp [daysInMonth, hleap hd]
      omega
    · refine Nat.le_trans ?_ (le_daysInFebruary y)
      omega

/-- From the first of January of the year 0 to the last day of the year 9999, in days from the
first of March of the year 0. -/
theorem year_bounds {z era yoe doy mp m : Int} (hz : -60 ≤ z) (hz' : z < 3652365)
    (he : z / 146097 = era)
    (hdoy : z - era * 146097 - (365 * yoe + yoe / 4 - yoe / 100) = doy)
    (y0 : 0 ≤ yoe) (y1 : yoe < 400) (d0 : 0 ≤ doy) (d1 : doy ≤ 365)
    (hmp : (5 * doy + 2) / 153 = mp) (hm : (if mp < 10 then mp + 3 else mp - 9) = m) :
    0 ≤ yoe + era * 400 + (if m ≤ 2 then 1 else 0) ∧
      yoe + era * 400 + (if m ≤ 2 then 1 else 0) < 10000 := by
  have hera : -1 ≤ era ∧ era ≤ 24 := by omega
  have hmonth : m ≤ 2 ↔ 306 ≤ doy := by split at hm <;> omega
  clear hmp hm
  rcases Int.lt_or_le era 0 with h | h
  · have hlast : yoe = 399 := by omega
    have hjanuary : m ≤ 2 := by omega
    simp only [hjanuary, if_true]
    omega
  · rcases Int.lt_or_le era 24 with h24 | h24
    · split <;> omega
    · have hmarch : yoe = 399 → ¬ m ≤ 2 := by omega
      split <;> omega

theorem civil_valid {days : Int} (h0 : -719528 ≤ days) (h1 : days < 2932897) :
    (civil days).1 < 10000 ∧ 1 ≤ (civil days).2.1 ∧ (civil days).2.1 ≤ 12 ∧
      1 ≤ (civil days).2.2 ∧ (civil days).2.2 ≤ daysInMonth (civil days).1 (civil days).2.1 := by
  obtain ⟨z, hz⟩ : ∃ z, days + 719468 = z := ⟨_, rfl⟩
  obtain ⟨era, he⟩ : ∃ era, z / 146097 = era := ⟨_, rfl⟩
  obtain ⟨doe, hdoe⟩ : ∃ doe, z - era * 146097 = doe := ⟨_, rfl⟩
  obtain ⟨yoe, hyoe⟩ : ∃ yoe, (doe - doe / 1460 + doe / 36524 - doe / 146096) / 365 = yoe :=
    ⟨_, rfl⟩
  obtain ⟨doy, hdoy⟩ : ∃ doy, doe - (365 * yoe + yoe / 4 - yoe / 100) = doy := ⟨_, rfl⟩
  obtain ⟨mp, hmp⟩ : ∃ mp, (5 * doy + 2) / 153 = mp := ⟨_, rfl⟩
  obtain ⟨m, hm⟩ : ∃ m, (if mp < 10 then mp + 3 else mp - 9) = m := ⟨_, rfl⟩
  have hcivil : civil days =
      ((yoe + era * 400 + if m ≤ 2 then 1 else 0).toNat, m.toNat,
        (doy - (153 * mp + 2) / 5 + 1).toNat) := by
    simp only [civil, hz, he, hdoe, hyoe, hdoy, hmp, hm]
  have hday : 0 ≤ doe ∧ doe < 146097 := by omega
  obtain ⟨y0, y1, d0, d1, hleap⟩ := yearOfEra_bounds hday.1 hday.2 hyoe
  rw [hdoy] at d0 d1 hleap
  have hyear := year_bounds (by omega) (by omega) he (hdoe.symm ▸ hdoy) y0 y1 d0 d1 hmp hm
  have hfeb : doy = 365 → leapYear (yoe + era * 400 + if m ≤ 2 then 1 else 0).toNat = true := by
    intro h
    obtain ⟨h4, h100⟩ := hleap h
    have hm2 : m ≤ 2 := by subst hmp hm h; decide
    simp only [hm2, if_true] at hyear ⊢
    clear hcivil hdoy hyoe hdoe he hz
    apply leapYear_of_mod <;> omega
  obtain ⟨m0, m1, k0, k1⟩ := day_le_daysInMonth d0 d1 hfeb hmp hm
  rw [hcivil]
  refine ⟨(Int.toNat_lt hyear.1).2 hyear.2, ?_, ?_, ?_, k1⟩
  · exact (Int.le_toNat (by omega)).2 m0
  · exact Int.toNat_le.2 m1
  · exact (Int.le_toNat (by omega)).2 k0

/-- So many microseconds after 1970 began it is a day of the calendar, from the year 0 on; the
year 0 itself is none of it. -/
theorem ofMicros_valid {us : Int} (h0 : -62167219200000000 ≤ us) (h1 : us < 253402300800000000)
    (hy : (ofMicros us).year ≠ 0) : (ofMicros us).Valid := by
  have hday : -719528 ≤ us / 86400000000 ∧ us / 86400000000 < 2932897 := by omega
  obtain ⟨c1, c2, c3, c4, c5⟩ := civil_valid hday.1 hday.2
  have hrest : (us - us / 86400000000 * 86400000000).toNat < 86400000000 := by omega
  exact
    { year_pos := Nat.one_le_iff_ne_zero.2 hy
      year_lt := c1
      month_pos := c2
      month_le := c3
      day_pos := c4
      day_le := c5
      hour_lt := Nat.div_lt_of_lt_mul hrest
      minute_lt := Nat.mod_lt _ (by decide)
      second_lt := Nat.mod_lt _ (by decide)
      micro_lt := Nat.mod_lt _ (by decide)
      offset_lt := by simp [ofMicros] }

end IntakeForms.Timestamp
