import Dunning.Time.Civil

/-!
# Dates and day numbers

The calendar repeats every 146097 days, the 400 years of an era. Counted from March the leap day is
the last day of its year, so within a century every fourth year has a day more and nothing else is
irregular. The reading of a day number by divisions is justified there, one century at a time; the
last day of an era belongs to no century and stands alone.

## Main results

* `Civil.yearOfEra_spec` — the year of a day of an era, and the days that have passed in it.
* `Civil.toDays_ofDays` — the date of a day number has that number.
* `Civil.valid_ofDays` — the dates of day numbers are dates of the calendar.
-/

namespace Dunning

namespace Civil

/-! ## Years -/

/-- The year of a day of the century `c`, and the days that have passed in it. Only a fourth year
lasts for 366 days, and the last year of a century does not. -/
private theorem yearOfCentury_spec {c day year : Int} (hc : 0 ≤ c ∧ c ≤ 3)
    (hfirst : 36524 * c ≤ day) (hlast : day < 36524 * (c + 1))
    (hyear : year = (day - day / 1460 + c) / 365) :
    (100 * c ≤ year ∧ year < 100 * (c + 1)) ∧
      365 * year + year / 4 - c ≤ day ∧ day ≤ 365 * year + year / 4 - c + 365 ∧
      (day = 365 * year + year / 4 - c + 365 → year % 4 = 3 ∧ year ≠ 100 * c + 99) := by
  have hcases : c = 0 ∨ c = 1 ∨ c = 2 ∨ c = 3 := by omega
  have hrange : 100 * c ≤ year ∧ year < 100 * (c + 1) := by
    rcases hcases with rfl | rfl | rfl | rfl <;> omega
  have hlow : 365 * year + year / 4 - c ≤ day := by
    rcases hcases with rfl | rfl | rfl | rfl <;> omega
  have hhigh : day ≤ 365 * year + year / 4 - c + 365 := by
    rcases hcases with rfl | rfl | rfl | rfl <;> omega
  refine ⟨hrange, hlow, hhigh, ?_⟩
  intro hlong
  refine ⟨?_, by omega⟩
  -- In the first three years of four, 365 days on the correction already counts the next year.
  generalize hfour : year / 4 = four at hlong
  have hrest : year % 4 = 0 ∨ year % 4 = 1 ∨ year % 4 = 2 ∨ year % 4 = 3 := by omega
  rcases hrest with hrest | hrest | hrest | hrest
  · obtain rfl : year = 4 * four := by omega
    have hleaps : day / 1460 = four := by omega
    omega
  · obtain rfl : year = 4 * four + 1 := by omega
    have hleaps : day / 1460 = four := by omega
    omega
  · obtain rfl : year = 4 * four + 2 := by omega
    have hleaps : day / 1460 = four := by omega
    omega
  · exact hrest

/-- The year of a day of an era, and the days that have passed in it. A year that lasts for 366 days
ends with a leap day, so the year after it by the usual count is a leap year. -/
theorem yearOfEra_spec {day year : Int} (hfirst : 0 ≤ day) (hlast : day ≤ 146096)
    (hyear : year = (day - day / 1460 + day / 36524 - day / 146096) / 365) :
    (0 ≤ year ∧ year ≤ 399) ∧
      365 * year + year / 4 - year / 100 ≤ day ∧
      day ≤ 365 * year + year / 4 - year / 100 + 365 ∧
      (day = 365 * year + year / 4 - year / 100 + 365 →
        (year + 1) % 4 = 0 ∧ ((year + 1) % 100 ≠ 0 ∨ (year + 1) % 400 = 0)) := by
  by_cases hend : day = 146096
  · subst hend
    obtain rfl : year = 399 := hyear
    decide
  · have hnone : day / 146096 = 0 := by omega
    have hcentury : 0 ≤ day / 36524 ∧ day / 36524 ≤ 3 := by omega
    rw [hnone, Int.sub_zero] at hyear
    obtain ⟨hrange, hlow, hhigh, hlong⟩ :=
      yearOfCentury_spec hcentury (by omega) (by omega) hyear
    have hsame : year / 100 = day / 36524 := by omega
    rw [hsame]
    refine ⟨by omega, hlow, hhigh, ?_⟩
    intro hday
    obtain ⟨hfourth, hne⟩ := hlong hday
    omega

/-! ## Dates -/

/-- The date of a day of a year that starts in March: `month` and `day` are counted from 0, and the
last two months belong to the next year of the calendar. -/
private def ofMarch (year month day : Int) : Civil :=
  ⟨if month < 10 then year else year + 1, (if month < 10 then month + 3 else month - 9).toNat,
    (day + 1).toNat⟩

/-- What the date of a day number is made of: the era, the year in it and the days that have passed in
that year, counted from March, and the number of whole months among them. -/
private theorem exists_parts (days : Int) : ∃ era year day month : Int,
    (0 ≤ year ∧ year ≤ 399) ∧ (0 ≤ day ∧ day ≤ 365) ∧
      (day = 365 → (year + 1) % 4 = 0 ∧ ((year + 1) % 100 ≠ 0 ∨ (year + 1) % 400 = 0)) ∧
      month = (5 * day + 2) / 153 ∧
      days = era * 146097 + (year * 365 + year / 4 - year / 100 + day) - 719468 ∧
      ofDays days = ofMarch (year + era * 400) month (day - (153 * month + 2) / 5) := by
  have hday : 0 ≤ (days + 719468) % 146097 ∧ (days + 719468) % 146097 ≤ 146096 := by omega
  obtain ⟨year, hyear⟩ : ∃ year, year = ((days + 719468) % 146097 -
      (days + 719468) % 146097 / 1460 + (days + 719468) % 146097 / 36524 -
      (days + 719468) % 146097 / 146096) / 365 := ⟨_, rfl⟩
  obtain ⟨hrange, hlow, hhigh, hlong⟩ := yearOfEra_spec hday.1 hday.2 hyear
  refine ⟨(days + 719468) / 146097, year,
    (days + 719468) % 146097 - (365 * year + year / 4 - year / 100), _, hrange,
    ⟨by omega, by omega⟩, ?_, rfl, by omega, ?_⟩
  · intro hlast
    exact hlong (by omega)
  · simp only [ofDays, ofMarch, ← hyear, mk.injEq, and_true]
    split <;> split <;> omega

/-- The day number of a date of a year that starts in March. -/
private theorem toDays_ofMarch {era year month day : Int} (hyear : 0 ≤ year ∧ year ≤ 399)
    (hmonth : 0 ≤ month ∧ month ≤ 11) (hday : 0 ≤ day) :
    (ofMarch (year + era * 400) month day).toDays =
      era * 146097 + (year * 365 + year / 4 - year / 100 + ((153 * month + 2) / 5 + day)) -
        719468 := by
  have hera : (year + era * 400) / 400 = era := by omega
  have hrest : (year + era * 400) % 400 = year := by omega
  have hfirst : ((day + 1).toNat : Int) = day + 1 := by omega
  rw [ofMarch, toDays]
  simp only
  by_cases hearly : month < 10
  · have hshift : ((((month + 3).toNat + 9) % 12 : Nat) : Int) = month := by omega
    simp only [if_pos hearly, if_neg (show ¬(month + 3).toNat ≤ 2 by omega), hshift, hera, hrest,
      hfirst]
    omega
  · have hshift : ((((month - 9).toNat + 9) % 12 : Nat) : Int) = month := by omega
    simp only [if_neg hearly, if_pos (show (month - 9).toNat ≤ 2 by omega), hshift,
      Int.add_sub_cancel, hera, hrest, hfirst]
    omega

/-- **The date of a day number has that number.** -/
theorem toDays_ofDays (days : Int) : (ofDays days).toDays = days := by
  obtain ⟨era, year, day, month, hyear, hday, -, hmonth, hdays, hdate⟩ := exists_parts days
  rw [hdate, toDays_ofMarch hyear (by omega) (by omega), hdays]
  omega

/-- The days of a month, counted from March: only the last one depends on the year. -/
private theorem le_monthLength (year : Int) {day month : Int} (hday : 0 ≤ day ∧ day ≤ 365)
    (hleap : day = 365 → isLeap (year + 1) = true) (hmonth : month = (5 * day + 2) / 153) :
    (ofMarch year month (day - (153 * month + 2) / 5)).day ≤
      monthLength (ofMarch year month (day - (153 * month + 2) / 5)).year
        (ofMarch year month (day - (153 * month + 2) / 5)).month := by
  have hcases : month = 11 ∨ month = 0 ∨ month = 1 ∨ month = 2 ∨ month = 3 ∨ month = 4 ∨
      month = 5 ∨ month = 6 ∨ month = 7 ∨ month = 8 ∨ month = 9 ∨ month = 10 := by omega
  rcases hcases with rfl | rfl | rfl | rfl | rfl | rfl | rfl | rfl | rfl | rfl | rfl | rfl
  · show (day - 337 + 1).toNat ≤ if isLeap (year + 1) then 29 else 28
    split
    · omega
    · rename_i hcommon
      have hne : day ≠ 365 := fun h => hcommon (hleap h)
      omega
  · show (day - 0 + 1).toNat ≤ 31
    omega
  · show (day - 31 + 1).toNat ≤ 30
    omega
  · show (day - 61 + 1).toNat ≤ 31
    omega
  · show (day - 92 + 1).toNat ≤ 30
    omega
  · show (day - 122 + 1).toNat ≤ 31
    omega
  · show (day - 153 + 1).toNat ≤ 31
    omega
  · show (day - 184 + 1).toNat ≤ 30
    omega
  · show (day - 214 + 1).toNat ≤ 31
    omega
  · show (day - 245 + 1).toNat ≤ 30
    omega
  · show (day - 275 + 1).toNat ≤ 31
    omega
  · show (day - 306 + 1).toNat ≤ 31
    omega

/-- **The date of a day of the calendar is a date of the calendar.** -/
theorem valid_ofDays {days : Int} (hfirst : -96465292 ≤ days) (hlast : days ≤ 95026236) :
    (ofDays days).valid = true := by
  obtain ⟨era, year, day, month, hyear, hday, hlong, hmonth, hdays, hdate⟩ := exists_parts days
  have hlength := le_monthLength (year + era * 400) hday (by
    intro hend
    obtain ⟨hfourth, hrule⟩ := hlong hend
    simp only [isLeap, Bool.and_eq_true, Bool.or_eq_true, beq_iff_eq, bne_iff_ne]
    omega) hmonth
  rw [hdate]
  simp only [valid, Bool.and_eq_true, decide_eq_true_eq]
  refine ⟨⟨⟨⟨⟨?_, ?_⟩, ?_⟩, ?_⟩, ?_⟩, hlength⟩
  · show -262143 ≤ if month < 10 then year + era * 400 else year + era * 400 + 1
    split <;> omega
  · show (if month < 10 then year + era * 400 else year + era * 400 + 1) ≤ 262142
    -- The calendar ends in the tenth month of a year that starts in March, the 142nd of its era.
    have hera : era ≤ 655 := by omega
    have hend : era = 655 → year ≤ 142 := by omega
    have hmonths : era = 655 → year = 142 → month < 10 := by
      rintro rfl rfl
      omega
    split <;> omega
  · show 1 ≤ (if month < 10 then month + 3 else month - 9).toNat
    split <;> omega
  · show (if month < 10 then month + 3 else month - 9).toNat ≤ 12
    split <;> omega
  · show 1 ≤ (day - (153 * month + 2) / 5 + 1).toNat
    omega

end Civil

end Dunning
