import Mathlib.Tactic.IntervalCases
import Registrar.Instant

/-!
The calendar. Years are counted from March on in eras of 400 years, so that a leap day ends its year. Main
statement: the civil date of a day is a date of the calendar and has the number of the day.
-/

namespace Registrar.Instant

theorem year_of_day {d : Nat} (h : d < 146097) :
    ∃ n doy, (d - d / 1460 + d / 36524 - d / 146096) / 365 = n ∧ n ≤ 399 ∧
      d = 365 * n + n / 4 - n / 100 + doy ∧ doy ≤ 365 ∧
      (doy = 365 → (n + 1) % 4 = 0 ∧ ((n + 1) % 100 ≠ 0 ∨ (n + 1) % 400 = 0)) := by
  by_cases last : d = 146096
  · subst last
    exact ⟨399, 365, by decide, by decide, by decide, by decide, by decide⟩
  · -- The day is b centuries, k cycles of four years and j years into the era. A leap day ends its
    -- cycle, so that the last day of a cycle belongs to the fourth year.
    obtain ⟨b, r, hd, hr, hb⟩ : ∃ b r, d = 36524 * b + r ∧ r ≤ 36523 ∧ b ≤ 3 :=
      ⟨d / 36524, d % 36524, by omega, by omega, by omega⟩
    obtain ⟨k, s, hrs, hs, hk⟩ : ∃ k s, r = 1461 * k + s ∧ s ≤ 1460 ∧ k ≤ 24 :=
      ⟨r / 1461, r % 1461, by omega, by omega, by omega⟩
    obtain ⟨j, hj, hj'⟩ : ∃ j, j ≤ 3 ∧ (365 * j ≤ s ∧ s < 365 * j + 365 ∨ j = 3 ∧ s = 1460) := by
      by_cases full : s = 1460
      · exact ⟨3, by omega, by omega⟩
      · exact ⟨s / 365, by omega, by omega⟩
    have centuries : d / 36524 = b := by omega
    have sameEra : d / 146096 = 0 := by omega
    have years : (d - d / 1460 + b - 0) / 365 = 100 * b + 4 * k + j := by
      obtain ⟨e, he, hd'⟩ : ∃ e, d / 1460 = 25 * b + k + e ∧ (e = 0 ∨ e = 1 ∧ 1364 ≤ s) ∧
          (s = 1460 → e = 1) := by
        refine ⟨d / 1460 - 25 * b - k, ?_, ?_⟩ <;> omega
      omega
    refine ⟨100 * b + 4 * k + j, s - 365 * j, ?_, ?_, ?_, ?_, ?_⟩
    · rw [centuries, sameEra]
      exact years
    · omega
    · have leapYears : (100 * b + 4 * k + j) / 4 = 25 * b + k := by omega
      have hundreds : (100 * b + 4 * k + j) / 100 = b := by omega
      rw [leapYears, hundreds]
      omega
    · omega
    · omega

theorem month_of_day {doy : Nat} (h : doy ≤ 365) :
    ∃ m day, (5 * doy + 2) / 153 = m ∧ m ≤ 11 ∧ doy = (153 * m + 2) / 5 + day ∧
      day < (if m = 11 then 29 else if m ∈ [1, 3, 6, 8] then 30 else 31) ∧
      (m = 11 → day = 28 → doy = 365) := by
  have hm : (5 * doy + 2) / 153 ≤ 11 := by omega
  refine ⟨(5 * doy + 2) / 153, doy - (153 * ((5 * doy + 2) / 153) + 2) / 5, rfl, hm, by omega, ?_, ?_⟩
  · generalize hq : (5 * doy + 2) / 153 = q at hm
    interval_cases q <;> simp <;> omega
  · intro h11 h28
    omega

section Dates

variable {n m before month : Nat} {era year : Int}

theorem dayNumber_of_parts (hn : n ≤ 399) (hm : m ≤ 11)
    (hmonth : (if m < 10 then m + 3 else m - 9) = month)
    (hyear : (if month ≤ 2 then (n : Int) + era * 400 + 1 else n + era * 400) = year) :
    dayNumber year month (before + 1) =
      era * 146097 + ((365 * n + n / 4 - n / 100 + ((153 * m + 2) / 5 + before) : Nat) : Int) -
        719468 := by
  have shifted : (if month ≤ 2 then year - 1 else year) = (n : Int) + era * 400 := by
    rw [← hyear]
    split <;> omega
  have sameEra : ((n : Int) + era * 400).fdiv 400 = era := by
    rw [Int.fdiv_eq_ediv_of_nonneg _ (by decide)]
    omega
  have sameMonth : (if month > 2 then (month : Int) - 3 else month + 9) = m := by
    rw [← hmonth]
    split <;> split <;> omega
  have sameYear : (n : Int) + era * 400 - era * 400 = n := Int.add_sub_cancel _ _
  have leapDays : n / 100 ≤ 365 * n + n / 4 := by omega
  simp only [dayNumber, shifted, sameEra, sameMonth, sameYear]
  have quarter : (n : Int) / 4 = ((n / 4 : Nat) : Int) := rfl
  have century : (n : Int) / 100 = ((n / 100 : Nat) : Int) := rfl
  have passed : (153 * (m : Int) + 2) / 5 = (((153 * m + 2) / 5 : Nat) : Int) := rfl
  rw [quarter, century, passed]
  -- What is left is linear in the leap days and in the days of the months before.
  generalize n / 4 = a at leapDays ⊢
  generalize n / 100 = b at leapDays ⊢
  generalize (153 * m + 2) / 5 = c
  omega

theorem le_daysIn (hm : m ≤ 11) (hmonth : (if m < 10 then m + 3 else m - 9) = month)
    (last : before < if m = 11 then 29 else if m ∈ [1, 3, 6, 8] then 30 else 31)
    (leap : m = 11 → before = 28 → isLeapYear year) : before + 1 ≤ daysIn year month := by
  subst hmonth
  interval_cases m <;> simp [daysIn] at last ⊢ <;> try omega
  split
  · omega
  · next common =>
    have short : before ≠ 28 := fun h28 => common (leap rfl h28)
    omega

/-- The civil date of a day is a date of the calendar, and has the day's number. -/
theorem civilDate_spec {number : Int} {day : Nat} (h : civilDate number = (year, month, day)) :
    dayNumber year month day = number ∧ 1 ≤ month ∧ month ≤ 12 ∧ 1 ≤ day ∧
      day ≤ daysIn year month := by
  obtain ⟨era, d, hz, hd, hera⟩ : ∃ (era : Int) (d : Nat), number + 719468 = era * 146097 + d ∧
      d < 146097 ∧ (number + 719468).fdiv 146097 = era := by
    refine ⟨(number + 719468) / 146097, ((number + 719468) % 146097).toNat, ?_, ?_, ?_⟩
    · omega
    · omega
    · exact Int.fdiv_eq_ediv_of_nonneg _ (by decide)
  obtain ⟨n, doy, hn, hn', hdoy, hdoy', leap⟩ := year_of_day hd
  obtain ⟨m, before, hm, hm', hbefore, last, hleap⟩ := month_of_day hdoy'
  have sameDay : (number + 719468 - era * 146097).toNat = d := by omega
  have ofYear : d - (365 * n + n / 4 - n / 100) = doy := by rw [hdoy, Nat.add_sub_cancel_left]
  have ofMonth : doy - (153 * m + 2) / 5 = before := by rw [hbefore, Nat.add_sub_cancel_left]
  simp only [civilDate, hera, sameDay, hn, ofYear, hm, ofMonth, Prod.mk.injEq] at h
  obtain ⟨hyear, hmonth, rfl⟩ := h
  rw [hmonth] at hyear
  have february : m = 11 → before = 28 → isLeapYear year := by
    rintro rfl h28
    obtain ⟨four, hundred⟩ := leap (hleap rfl h28)
    cases hmonth
    have next : year = n + 1 + era * 400 := by
      rw [← hyear, if_pos (by decide)]
      omega
    simp only [isLeapYear, next, Bool.and_eq_true, Bool.or_eq_true, beq_iff_eq, bne_iff_ne]
    omega
  refine ⟨?_, ?_, ?_, Nat.succ_pos _, le_daysIn hm' hmonth last february⟩
  · rw [dayNumber_of_parts hn' hm' hmonth hyear, ← hbefore, ← hdoy]
    omega
  · rw [← hmonth]
    split <;> omega
  · rw [← hmonth]
    split <;> omega

end Dates
end Registrar.Instant
