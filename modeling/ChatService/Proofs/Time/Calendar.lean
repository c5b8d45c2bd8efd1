import ChatService.Time.Calendar

/-!
# Days and dates

A day number and its date determine each other.  Days are counted within eras of 400 years that
begin in March; `yearStart` is the first day of a year of an era, and the division that finds the
year of a day is right because `leapless`, the day number without the leap days before it, never
decreases and passes a multiple of 365 exactly where a year begins.
-/

namespace ChatService.Date

/-! ## years of an era -/

/-- The number of days before a year of an era. -/
def yearStart (year : Int) : Int := 365 * year + year / 4 - year / 100 + year / 400

/-- A day of an era without the leap days before it. -/
def leapless (day : Int) : Int := day - day / 1460 + day / 36524 - day / 146096

/-- The year of an era to which a day belongs. -/
def yearOfEra (day : Int) : Int := leapless day / 365

theorem leapless_mono {a b : Int} (h : a ≤ b) : leapless a ≤ leapless b := by
  have hfour : a - a / 1460 ≤ b - b / 1460 := by omega
  have ha : a / 146096 = a / 36524 / 4 := by omega
  have hb : b / 146096 = b / 36524 / 4 := by omega
  have hcentury : a / 36524 ≤ b / 36524 := by omega
  unfold leapless
  omega

/-- A year begins where the days without leap days reach a multiple of 365. -/
theorem leapless_yearStart : ∀ k : Nat, k < 401 →
    365 * (k : Int) ≤ leapless (yearStart k) ∧
      (0 < k → leapless (yearStart k - 1) < 365 * (k : Int)) := by
  decide +kernel

theorem yearOfEra_bounds {day : Int} (h : 0 ≤ day) (h' : day < 146097) :
    0 ≤ yearOfEra day ∧ yearOfEra day < 400 := by
  unfold yearOfEra leapless
  omega

/-- A day lies between the beginning of its year and that of the next one. -/
theorem yearStart_le {day : Int} (h : 0 ≤ day) (h' : day < 146097) :
    yearStart (yearOfEra day) ≤ day ∧ day < yearStart (yearOfEra day + 1) := by
  obtain ⟨hlow, hhigh⟩ := yearOfEra_bounds h h'
  have hday : 365 * yearOfEra day ≤ leapless day ∧ leapless day < 365 * (yearOfEra day + 1) := by
    unfold yearOfEra
    omega
  obtain ⟨k, hk⟩ := Int.eq_ofNat_of_zero_le hlow
  obtain ⟨-, hthis⟩ := leapless_yearStart k (by omega)
  have hnext : 365 * ((k : Int) + 1) ≤ leapless (yearStart ((k : Int) + 1)) :=
    (leapless_yearStart (k + 1) (by omega)).1
  rw [hk] at hday ⊢
  -- a day outside its year would have too few days without leap days, or too many
  constructor
  · refine Int.not_lt.mp fun hbefore => ?_
    have hmono := leapless_mono (show day ≤ yearStart k - 1 by omega)
    have hpos : 0 < k := by
      unfold yearStart at hbefore
      omega
    have := hthis hpos
    omega
  · refine Int.not_le.mp fun hafter => ?_
    have hmono := leapless_mono hafter
    omega

/-- The year after a leap day is a leap year: the leap day is the last day of its year. -/
theorem yearStart_add_one {year : Int} :
    yearStart (year + 1) = yearStart year + 365 + if isLeapYear (year + 1) then 1 else 0 := by
  unfold yearStart isLeapYear
  split
  · next h => simp only [decide_eq_true_eq] at h; omega
  · next h => simp only [decide_eq_true_eq] at h; omega

theorem isLeapYear_add_era (year era : Int) :
    isLeapYear (year + era * 400) = isLeapYear year := by
  unfold isLeapYear
  rw [Bool.eq_iff_iff, decide_eq_true_eq, decide_eq_true_eq]
  omega

/-! ## days of a year -/

/-- The month of a day of a year that begins in March, counted from March. -/
def monthFromMarch (day : Int) : Int := (5 * day + 2) / 153

/-- A month counted from January. -/
def monthOf (fromMarch : Int) : Int := if fromMarch < 10 then fromMarch + 3 else fromMarch - 9

/-- The day of its month that a day of a year is. -/
def dayOf (day : Int) : Int := day - (153 * monthFromMarch day + 2) / 5 + 1

/-- What holds of the days of a year: where their months lie, and how long these are. -/
theorem dayOf_spec : ∀ k : Nat, k < 366 →
    0 ≤ monthFromMarch k ∧ monthFromMarch k < 12 ∧ 1 ≤ dayOf k ∧
      (monthOf (monthFromMarch k) ≤ 2 ↔ 306 ≤ k) ∧
      (monthOf (monthFromMarch k) ≠ 2 →
        (dayOf k).toNat ≤ daysInMonth 0 (monthOf (monthFromMarch k)).toNat) ∧
      (monthOf (monthFromMarch k) = 2 → dayOf k ≤ 28 ∨ k = 365 ∧ dayOf k = 29) := by
  decide +kernel

theorem daysInMonth_of_ne_two {year year' : Int} {month : Nat} (h : month ≠ 2) :
    daysInMonth year month = daysInMonth year' month := by
  unfold daysInMonth
  split <;> first | rfl | contradiction

theorem daysInMonth_le (year : Int) (month : Nat) : daysInMonth year month ≤ 31 := by
  unfold daysInMonth
  split <;> first | omega | (split <;> omega)

/-! ## dates and days -/

/-- A day number by its era, its year and its day in that year. -/
structure IsDay (days era year day : Int) : Prop where
  eq : days + 719468 = era * 146097 + yearStart year + day
  year_nonneg : 0 ≤ year
  year_lt : year < 400
  nonneg : 0 ≤ day
  lt : day < 366
  leap : day = 365 → isLeapYear (year + 1) = true

theorem exists_isDay (days : Int) :
    ∃ era year day, IsDay days era year day ∧
      ofDays days =
        { year := year + era * 400 + if monthOf (monthFromMarch day) ≤ 2 then 1 else 0
          month := (monthOf (monthFromMarch day)).toNat
          day := (dayOf day).toNat } := by
  have hday : 0 ≤ (days + 719468) % 146097 ∧ (days + 719468) % 146097 < 146097 := by omega
  obtain ⟨hlow, hhigh⟩ := yearOfEra_bounds hday.1 hday.2
  obtain ⟨hstart, hend⟩ := yearStart_le hday.1 hday.2
  rw [yearStart_add_one] at hend
  have hbefore : yearStart (yearOfEra ((days + 719468) % 146097)) =
      365 * yearOfEra ((days + 719468) % 146097) + yearOfEra ((days + 719468) % 146097) / 4 -
        yearOfEra ((days + 719468) % 146097) / 100 := by
    unfold yearStart
    omega
  refine ⟨(days + 719468) / 146097, yearOfEra ((days + 719468) % 146097),
    (days + 719468) % 146097 - yearStart (yearOfEra ((days + 719468) % 146097)), ?_, ?_⟩
  · refine ⟨by omega, hlow, hhigh, by omega, by split at hend <;> omega, fun heq => ?_⟩
    refine Decidable.byContradiction fun hleap => ?_
    rw [if_neg hleap] at hend
    omega
  · rw [hbefore]
    rfl

section

variable {days era year day : Int}

theorem IsDay.spec (h : IsDay days era year day) :
    0 ≤ monthFromMarch day ∧ monthFromMarch day < 12 ∧ 1 ≤ dayOf day ∧
      (monthOf (monthFromMarch day) ≤ 2 ↔ 306 ≤ day) ∧
      (monthOf (monthFromMarch day) ≠ 2 →
        (dayOf day).toNat ≤ daysInMonth 0 (monthOf (monthFromMarch day)).toNat) ∧
      (monthOf (monthFromMarch day) = 2 → dayOf day ≤ 28 ∨ day = 365 ∧ dayOf day = 29) := by
  obtain ⟨k, rfl⟩ := Int.eq_ofNat_of_zero_le h.nonneg
  have hlt := h.lt
  obtain ⟨h1, h2, h3, h4, h5, h6⟩ := dayOf_spec k (by omega)
  exact ⟨h1, h2, h3, by omega, h5, fun hfeb => by have := h6 hfeb; omega⟩

end

/-- **The day number of a date that was made of a day number is that number.** -/
theorem toDays_ofDays (days : Int) : (ofDays days).toDays = days := by
  obtain ⟨era, year, day, hday, hdate⟩ := exists_isDay days
  obtain ⟨hlow, hhigh, hone, -, -⟩ := hday.spec
  have heq := hday.eq
  have hyear := hday.year_nonneg
  have hlt := hday.year_lt
  have hdayOf : dayOf day = day - (153 * monthFromMarch day + 2) / 5 + 1 := rfl
  have hmonth : monthOf (monthFromMarch day) =
      if monthFromMarch day < 10 then monthFromMarch day + 3 else monthFromMarch day - 9 := rfl
  have hstart : yearStart year = 365 * year + year / 4 - year / 100 := by
    unfold yearStart
    omega
  rw [hdate]
  simp only [toDays]
  generalize monthFromMarch day = month at *
  generalize dayOf day = date at *
  by_cases hlate : month < 10
  · rw [if_pos hlate] at hmonth
    rw [hmonth, if_neg (by omega), if_neg (by omega)]
    omega
  · rw [if_neg hlate] at hmonth
    rw [hmonth, if_pos (by omega), if_pos (by omega)]
    omega

/-- The date of a day number exists. -/
theorem ofDays_day (days : Int) :
    1 ≤ (ofDays days).day ∧
      (ofDays days).day ≤ daysInMonth (ofDays days).year (ofDays days).month := by
  obtain ⟨era, year, day, hday, hdate⟩ := exists_isDay days
  obtain ⟨hlow, hhigh, hone, -, hother, hfebruary⟩ := hday.spec
  have hmonth : 0 ≤ monthOf (monthFromMarch day) := by
    unfold monthOf
    split <;> omega
  rw [hdate]
  refine ⟨by dsimp only; omega, ?_⟩
  dsimp only
  by_cases hmonth2 : monthOf (monthFromMarch day) = 2
  · rw [hmonth2]
    show (dayOf day).toNat ≤
      if isLeapYear (year + era * 400 + if (2 : Int) ≤ 2 then 1 else 0) then 29 else 28
    have hsame : year + era * 400 + (if (2 : Int) ≤ 2 then 1 else 0) = year + 1 + era * 400 := by
      rw [if_pos (by omega)]
      omega
    rw [hsame, isLeapYear_add_era]
    obtain hshort | ⟨hlast, hleapDay⟩ := hfebruary hmonth2
    · split <;> omega
    · rw [hday.leap hlast, if_pos rfl]
      omega
  · have hne : (monthOf (monthFromMarch day)).toNat ≠ 2 := by omega
    exact Nat.le_trans (hother hmonth2) (Nat.le_of_eq (daysInMonth_of_ne_two hne))

/-! ## the years of a timestamp -/

/-- Days in range have years in range. -/
theorem ofDays_year {days : Int} (h : (⟨minYear, 1, 1⟩ : Date).toDays ≤ days)
    (h' : days ≤ (⟨maxYear, 12, 31⟩ : Date).toDays) :
    minYear ≤ (ofDays days).year ∧ (ofDays days).year ≤ maxYear := by
  obtain ⟨era, year, day, hday, hdate⟩ := exists_isDay days
  obtain ⟨-, -, -, hmonth, -⟩ := hday.spec
  have hfirst : (⟨minYear, 1, 1⟩ : Date).toDays = -96465292 := by decide
  have hlast : (⟨maxYear, 12, 31⟩ : Date).toDays = 95026236 := by decide
  have heq := hday.eq
  have hyear := hday.year_nonneg
  have hlt := hday.year_lt
  have hnonneg := hday.nonneg
  have hdays := hday.lt
  rw [hdate]
  unfold yearStart at heq
  have hera : era ≤ 655 := by omega
  unfold minYear maxYear
  dsimp only
  split
  · next hspring =>
      -- in the last year of the last era no day comes after December
      have hday := hmonth.mp hspring
      obtain hbefore | rfl : era ≤ 654 ∨ era = 655 := by omega
      · omega
      · have hcentury : year / 100 ≤ year / 4 := by omega
        obtain hearly | rfl | hlate : year < 142 ∨ year = 142 ∨ 143 ≤ year := by omega
        · omega
        · omega
        · omega
  · omega

theorem isValid_ofDays {days : Int} (h : (⟨minYear, 1, 1⟩ : Date).toDays ≤ days)
    (h' : days ≤ (⟨maxYear, 12, 31⟩ : Date).toDays) : (ofDays days).IsValid :=
  ⟨(ofDays_year h h').1, (ofDays_year h h').2, (ofDays_day days).1, (ofDays_day days).2⟩

theorem ofDays_month (days : Int) : 1 ≤ (ofDays days).month ∧ (ofDays days).month ≤ 12 := by
  obtain ⟨era, year, day, hday, hdate⟩ := exists_isDay days
  obtain ⟨hlow, hhigh, -⟩ := hday.spec
  rw [hdate]
  unfold monthOf
  dsimp only
  split <;> omega

end ChatService.Date
