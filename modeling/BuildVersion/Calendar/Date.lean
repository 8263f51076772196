/-!
# Dates

The proleptic Gregorian calendar: dates, and their numbering by days. Day 0 is 1970-01-01. Main
statements: the day number of the date of day `n` is `n`, and a valid date is the date of its day
number.
-/

namespace BuildVersion.Calendar

/-- A date by year, month from 1 and day from 1. -/
structure Date where
  year : Int
  month : Nat
  day : Nat
deriving DecidableEq

/-- Whether a year has a 29th of February. -/
def isLeap (year : Int) : Bool :=
  decide (year % 4 = 0 ∧ (year % 100 ≠ 0 ∨ year % 400 = 0))

/-- The days of a year that lie before a month. -/
def daysBeforeMonth (leap : Bool) : Nat → Nat
  | 0 | 1 => 0
  | 2 => 31
  | 3 => 59 + leap.toNat
  | 4 => 90 + leap.toNat
  | 5 => 120 + leap.toNat
  | 6 => 151 + leap.toNat
  | 7 => 181 + leap.toNat
  | 8 => 212 + leap.toNat
  | 9 => 243 + leap.toNat
  | 10 => 273 + leap.toNat
  | 11 => 304 + leap.toNat
  | 12 => 334 + leap.toNat
  | _ => 365 + leap.toNat

/-- The length of a month. -/
def daysInMonth (leap : Bool) (month : Nat) : Nat :=
  daysBeforeMonth leap (month + 1) - daysBeforeMonth leap month

/-- The days from the start of year 0 to the start of a year. -/
def daysBeforeYear (year : Int) : Int :=
  365 * year + (year + 3) / 4 - (year + 99) / 100 + (year + 399) / 400

/-- The number of 1970-01-01 counted from the start of year 0. -/
def epochDay : Int := 719528

/-- The month that holds a day of the year, counted from 0. -/
def monthOfDay (leap : Bool) (day : Nat) : Nat :=
  if day < daysBeforeMonth leap 2 then 1
  else if day < daysBeforeMonth leap 3 then 2
  else if day < daysBeforeMonth leap 4 then 3
  else if day < daysBeforeMonth leap 5 then 4
  else if day < daysBeforeMonth leap 6 then 5
  else if day < daysBeforeMonth leap 7 then 6
  else if day < daysBeforeMonth leap 8 then 7
  else if day < daysBeforeMonth leap 9 then 8
  else if day < daysBeforeMonth leap 10 then 9
  else if day < daysBeforeMonth leap 11 then 10
  else if day < daysBeforeMonth leap 12 then 11
  else 12

/-- The year that holds a day, counted from the start of year 0. An estimate from the mean length of
a year is off by one at most. -/
def yearOfDay (n : Int) : Int :=
  let guess := 400 * n / 146097
  if n < daysBeforeYear guess then guess - 1
  else if daysBeforeYear (guess + 1) ≤ n then guess + 1
  else guess

namespace Date

/-- A date that the calendar knows. -/
def Valid (d : Date) : Prop :=
  1 ≤ d.month ∧ d.month ≤ 12 ∧ 1 ≤ d.day ∧ d.day ≤ daysInMonth (isLeap d.year) d.month

instance (d : Date) : Decidable d.Valid := by unfold Valid; infer_instance

/-- The number of a date, counted in days from 1970-01-01. -/
def dayNumber (d : Date) : Int :=
  daysBeforeYear d.year + daysBeforeMonth (isLeap d.year) d.month + d.day - 1 - epochDay

/-- The date of a day number. -/
def ofDayNumber (n : Int) : Date :=
  let day := n + epochDay
  let year := yearOfDay day
  let leap := isLeap year
  let rest := (day - daysBeforeYear year).toNat
  let month := monthOfDay leap rest
  { year, month, day := rest - daysBeforeMonth leap month + 1 }

end Date

/-- A year is as long as its leap day says. -/
theorem daysBeforeYear_succ (year : Int) :
    daysBeforeYear (year + 1) = daysBeforeYear year + 365 + (isLeap year).toNat := by
  unfold daysBeforeYear
  by_cases h : year % 4 = 0 ∧ (year % 100 ≠ 0 ∨ year % 400 = 0)
  · rw [show isLeap year = true from decide_eq_true h, Bool.toNat_true]
    omega
  · rw [show isLeap year = false from decide_eq_false h, Bool.toNat_false]
    omega

/-- The year of a day starts no later than the day and ends after it. -/
theorem yearOfDay_bounds (n : Int) :
    daysBeforeYear (yearOfDay n) ≤ n ∧ n < daysBeforeYear (yearOfDay n + 1) := by
  have estimate : daysBeforeYear (400 * n / 146097 - 1) ≤ n ∧
      n < daysBeforeYear (400 * n / 146097 + 1 + 1) := by
    unfold daysBeforeYear
    omega
  unfold yearOfDay
  by_cases early : n < daysBeforeYear (400 * n / 146097)
  · simp only [early, ↓reduceIte, Int.sub_add_cancel]
    exact ⟨estimate.1, trivial⟩
  · by_cases late : daysBeforeYear (400 * n / 146097 + 1) ≤ n
    · simp only [early, late, ↓reduceIte]
      exact ⟨trivial, estimate.2⟩
    · simp only [early, late, ↓reduceIte]
      exact ⟨Int.not_lt.1 early, Int.not_le.1 late⟩

theorem daysBeforeYear_mono {a b : Int} (h : a ≤ b) : daysBeforeYear a ≤ daysBeforeYear b := by
  unfold daysBeforeYear
  omega

/-- No other year holds the day. -/
theorem yearOfDay_eq {n year : Int} (h₁ : daysBeforeYear year ≤ n)
    (h₂ : n < daysBeforeYear (year + 1)) : yearOfDay n = year := by
  have h := yearOfDay_bounds n
  rcases Int.lt_trichotomy (yearOfDay n) year with hlt | heq | hgt
  · have := daysBeforeYear_mono (show yearOfDay n + 1 ≤ year by omega)
    omega
  · exact heq
  · have := daysBeforeYear_mono (show year + 1 ≤ yearOfDay n by omega)
    omega

/-- The month of a day starts no later than the day and ends after it. -/
theorem monthOfDay_bounds : ∀ (leap : Bool) (day : Nat), day < 365 + leap.toNat →
    1 ≤ monthOfDay leap day ∧ monthOfDay leap day ≤ 12 ∧
      daysBeforeMonth leap (monthOfDay leap day) ≤ day ∧
      day < daysBeforeMonth leap (monthOfDay leap day + 1) := by
  decide +kernel

theorem daysBeforeMonth_mono : ∀ (leap : Bool) (b : Nat), b < 14 → ∀ a, a < b + 1 →
    daysBeforeMonth leap a ≤ daysBeforeMonth leap b := by
  decide +kernel

/-- No other month holds the day. -/
theorem monthOfDay_eq {leap : Bool} {month day : Nat} (h₁ : month ≤ 12)
    (h₂ : daysBeforeMonth leap month ≤ day) (h₃ : day < daysBeforeMonth leap (month + 1))
    (h₄ : day < 365 + leap.toNat) : monthOfDay leap day = month := by
  have h := monthOfDay_bounds leap day h₄
  rcases Nat.lt_trichotomy (monthOfDay leap day) month with hlt | heq | hgt
  · have := daysBeforeMonth_mono leap month (by omega) (monthOfDay leap day + 1) (by omega)
    omega
  · exact heq
  · have := daysBeforeMonth_mono leap (monthOfDay leap day) (by omega) (month + 1) (by omega)
    omega

namespace Date

/-- The date of a day has the number of the day. -/
theorem dayNumber_ofDayNumber (n : Int) : (ofDayNumber n).dayNumber = n := by
  have hy := yearOfDay_bounds (n + epochDay)
  rw [daysBeforeYear_succ] at hy
  have hm := monthOfDay_bounds (isLeap (yearOfDay (n + epochDay)))
    (n + epochDay - daysBeforeYear (yearOfDay (n + epochDay))).toNat (by omega)
  simp only [ofDayNumber, dayNumber]
  omega

/-- The date of a day is one that the calendar knows. -/
theorem valid_ofDayNumber (n : Int) : (ofDayNumber n).Valid := by
  have hy := yearOfDay_bounds (n + epochDay)
  rw [daysBeforeYear_succ] at hy
  have hm := monthOfDay_bounds (isLeap (yearOfDay (n + epochDay)))
    (n + epochDay - daysBeforeYear (yearOfDay (n + epochDay))).toNat (by omega)
  simp only [ofDayNumber, Valid, daysInMonth]
  omega

/-- The first day of the next month lies within the year or starts the next one. -/
theorem daysBeforeMonth_le (leap : Bool) (month : Nat) :
    daysBeforeMonth leap month ≤ 365 + leap.toNat := by
  cases leap <;> unfold daysBeforeMonth <;> split <;> simp

/-- A date that the calendar knows is the date of its number. -/
theorem ofDayNumber_dayNumber {d : Date} (h : d.Valid) : ofDayNumber d.dayNumber = d := by
  obtain ⟨year, month, day⟩ := d
  obtain ⟨h₁, h₂, h₃, h₄⟩ := h
  simp only [daysInMonth] at h₁ h₂ h₃ h₄
  have hle := daysBeforeMonth_le (isLeap year) (month + 1)
  have hs := daysBeforeYear_succ year
  have hyear : yearOfDay (dayNumber ⟨year, month, day⟩ + epochDay) = year :=
    yearOfDay_eq (by simp only [dayNumber]; omega) (by simp only [dayNumber]; omega)
  have hrest : (dayNumber ⟨year, month, day⟩ + epochDay - daysBeforeYear year).toNat =
      daysBeforeMonth (isLeap year) month + (day - 1) := by
    simp only [dayNumber]; omega
  have hmonth : monthOfDay (isLeap year) (daysBeforeMonth (isLeap year) month + (day - 1)) = month :=
    monthOfDay_eq h₂ (by omega) (by omega) (by omega)
  simp only [ofDayNumber, hyear, hrest, hmonth, mk.injEq, true_and]
  omega

end Date

end BuildVersion.Calendar
