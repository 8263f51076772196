import BuildVersion.Calendar.Zone
import Mathlib.Tactic.Lemma

/-!
# Local time and back

What local clocks show at the instant that a local time means: this local time (`civil_instant?`), except
that at the second from which clocks skip an hour they show a later one (`civil_of_skipsFrom`). Local times
that clocks have shown mean an instant (`exists_instant?`). Summer time starts and ends inside one calendar
year, on whole hours after midnight, and this is all that the proofs use of its rule.
-/

namespace BuildVersion.Calendar

/-- Counting on from a base date, later months start later. -/
lemma Date.dayNumber_bounds {d : Date} (h : d.Valid) :
    daysBeforeYear d.year - epochDay ≤ d.dayNumber ∧
      d.dayNumber < daysBeforeYear (d.year + 1) - epochDay := by
  obtain ⟨hmonth, _, hday, hlast⟩ := h
  have hle := daysBeforeMonth_le (isLeap d.year) (d.month + 1)
  have hsucc := daysBeforeYear_succ d.year
  simp only [daysInMonth] at hlast
  simp only [dayNumber]
  omega

namespace Civil

/-- A clock shows its date as long as the day lasts. -/
lemma toSeconds_bounds {c : Civil} (h : c.Valid) :
    c.date.dayNumber * 86400 ≤ c.toSeconds ∧ c.toSeconds < c.date.dayNumber * 86400 + 86400 := by
  obtain ⟨_, hhour, hminute, hsecond⟩ := h
  simp only [toSeconds, secondsPerDay]
  omega

end Civil

namespace Zone

/-- The seconds of local standard time at which a year starts. -/
def yearStart (year : Int) : Int := (daysBeforeYear year - epochDay) * 86400

lemma yearOf_eq {seconds year : Int} (hstart : yearStart year ≤ seconds)
    (hend : seconds < yearStart (year + 1)) : yearOf seconds = year := by
  simp only [yearStart] at hstart hend
  simp only [yearOf, Date.ofDayNumber, secondsPerDay]
  apply yearOfDay_eq <;> omega

lemma yearOf_bounds (seconds : Int) :
    yearStart (yearOf seconds) ≤ seconds ∧ seconds < yearStart (yearOf seconds + 1) := by
  have h := yearOfDay_bounds (seconds / 86400 + epochDay)
  simp only [yearOf, Date.ofDayNumber, secondsPerDay, yearStart]
  omega

/-- Summer time starts at two hours after midnight and ends at one, inside the year. -/
lemma summer_bounds (year : Int) :
    summerStart year % 86400 = 7200 ∧ summerEnd year % 86400 = 3600 ∧
      yearStart year + 86400 ≤ summerStart year ∧ summerStart year + 86400 ≤ summerEnd year ∧
      summerEnd year + 86400 ≤ yearStart (year + 1) := by
  have hsucc := daysBeforeYear_succ year
  simp only [summerStart, summerEnd, sundayFrom, Date.dayNumber, daysBeforeMonth, secondsPerDay,
    yearStart]
  omega

/-- The year of a date is the year of its clock. -/
lemma yearOf_toSeconds {c : Civil} (h : c.Valid) :
    yearStart c.date.year ≤ c.toSeconds ∧ c.toSeconds < yearStart (c.date.year + 1) := by
  have hday := Date.dayNumber_bounds h.1
  have hclock := Civil.toSeconds_bounds h
  simp only [yearStart]
  omega

lemma valid_civil (zone : Zone) (t : Instant) : (zone.civil t).Valid := Civil.valid_ofSeconds _ _

lemma toSeconds_civil (zone : Zone) (t : Instant) :
    (zone.civil t).toSeconds = t.seconds + zone.offsetAt t := Civil.toSeconds_ofSeconds _ _

/-- By how much clocks are ahead depends on standard time. -/
lemma offsetAt_summer {standard : Int} {t : Instant} (clock : Int) (h : t.seconds + standard = clock) :
    (summer standard).offsetAt t =
      if summerStart (yearOf clock) ≤ clock ∧ clock < summerEnd (yearOf clock) then standard + 3600
      else standard := by
  rw [← h]
  rfl

/-- Whether a civil time names the second from which local clocks skip an hour. -/
def SkipsFrom (zone : Zone) (c : Civil) : Prop :=
  match zone with
  | fixed _ => False
  | summer _ => c.toSeconds = summerStart c.date.year

instance (zone : Zone) (c : Civil) : Decidable (zone.SkipsFrom c) :=
  match zone with
  | fixed _ => inferInstanceAs (Decidable False)
  | summer _ => inferInstanceAs (Decidable (c.toSeconds = summerStart c.date.year))

/-- At the instant that a local time means, clocks are ahead by as much as was reckoned. -/
lemma offsetAt_ofCivil {zone : Zone} {c : Civil} {offset : Int} (hc : c.Valid) (hskip : ¬ zone.SkipsFrom c)
    (h : zone.offsetOf? c = some offset) : zone.offsetAt (Instant.ofCivil c offset) = offset := by
  cases zone with
  | fixed standard => exact Option.some.inj h
  | summer standard =>
    have hyear := yearOf_toSeconds hc
    obtain ⟨_, _, hstart, hlong, hend⟩ := summer_bounds c.date.year
    have hclock : (Instant.ofCivil c offset).seconds = c.toSeconds - offset := rfl
    have hother : c.toSeconds ≠ summerStart c.date.year := hskip
    simp only [offsetOf?] at h
    split at h
    · next hbefore =>
      cases h
      rw [offsetAt_summer c.toSeconds (by omega), yearOf_eq hyear.1 hyear.2,
        if_neg (by omega)]
    · split at h
      · cases h
      · split at h
        · next hsummer =>
          cases h
          -- Standard time is an hour behind, but in the same year.
          have hsame : yearOf (c.toSeconds - 3600) = c.date.year := yearOf_eq (by omega) (by omega)
          rw [offsetAt_summer (c.toSeconds - 3600) (by omega), hsame, if_pos (by omega)]
        · next hafter =>
          cases h
          rw [offsetAt_summer c.toSeconds (by omega), yearOf_eq hyear.1 hyear.2,
            if_neg (by omega)]

/-- Clocks show a local time at the instant that it means. -/
theorem civil_instant? {zone : Zone} {c : Civil} {t : Instant} (hc : c.Valid) (hskip : ¬ zone.SkipsFrom c)
    (h : zone.instant? c = some t) : zone.civil t = c := by
  obtain ⟨offset, hoffset, rfl⟩ := Option.map_eq_some_iff.1 h
  rw [civil, offsetAt_ofCivil hc hskip hoffset]
  exact Instant.civil_ofCivil hc offset

/-- Clocks skip the hour from two to three. -/
lemma hour_of_skipsFrom {zone : Zone} {c : Civil} (hc : c.Valid) (hskip : zone.SkipsFrom c) : c.hour = 2 := by
  cases zone with
  | fixed standard => exact hskip.elim
  | summer standard =>
    have hstart : c.toSeconds = summerStart c.date.year := hskip
    obtain ⟨htwo, _⟩ := summer_bounds c.date.year
    obtain ⟨_, _, hminute, hsecond⟩ := hc
    simp only [Civil.toSeconds, secondsPerDay] at hstart
    omega

/-- The second from which clocks skip an hour is taken as standard time, in which they no longer are. -/
theorem civil_of_skipsFrom {zone : Zone} {c : Civil} (hc : c.Valid) (hskip : zone.SkipsFrom c) :
    ∃ t, zone.instant? c = some t ∧ zone.civil t = { c with hour := c.hour + 1 } := by
  cases zone with
  | fixed standard => exact hskip.elim
  | summer standard =>
    have hstart : c.toSeconds = summerStart c.date.year := hskip
    have hyear := yearOf_toSeconds hc
    obtain ⟨_, _, _, hlong, _⟩ := summer_bounds c.date.year
    have hoffset : (summer standard).offsetOf? c = some standard := if_pos (Int.le_of_eq hstart)
    have hclock : (Instant.ofCivil c standard).seconds = c.toSeconds - standard := rfl
    have hahead : (summer standard).offsetAt (Instant.ofCivil c standard) = standard + 3600 := by
      rw [offsetAt_summer c.toSeconds (by omega), yearOf_eq hyear.1 hyear.2, if_pos (by omega)]
    -- One hour later is still on the same day.
    have hlater : Civil.Valid { c with hour := c.hour + 1 } :=
      ⟨hc.1, by simp [hour_of_skipsFrom hc hskip], hc.2.2⟩
    refine ⟨Instant.ofCivil c standard, by rw [instant?, hoffset]; rfl, ?_⟩
    rw [civil, hahead, ← Civil.ofSeconds_toSeconds hlater, Instant.civil, hclock]
    congr 1
    simp only [Civil.toSeconds, secondsPerDay]
    omega

/-- A local time that means no instant lies in the hour in which summer time starts, behind its first
second. -/
lemma of_offsetOf?_eq_none {zone : Zone} {c : Civil} (h : zone.offsetOf? c = none) :
    ∃ standard, zone = summer standard ∧ summerStart c.date.year < c.toSeconds ∧
      c.toSeconds < summerStart c.date.year + 3600 := by
  cases zone with
  | fixed standard => cases h
  | summer standard =>
    simp only [offsetOf?] at h
    split at h
    · cases h
    · split at h
      · next hbefore hskipped => exact ⟨standard, rfl, by omega, hskipped⟩
      · split at h <;> cases h

/-- Local clocks never stand in the hour that they skip. -/
lemma civil_not_skipped {standard : Int} {t : Instant} {c : Civil}
    (h : (summer standard).civil t = c) :
    c.toSeconds < summerStart c.date.year ∨ summerStart c.date.year + 3600 ≤ c.toSeconds := by
  have hvalid : c.Valid := by
    rw [← h]
    exact valid_civil _ _
  have hshown : c.toSeconds = t.seconds + (summer standard).offsetAt t := by
    rw [← h]
    exact toSeconds_civil _ _
  have hyear := yearOf_toSeconds hvalid
  have hclock := yearOf_bounds (t.seconds + standard)
  obtain ⟨_, _, hstart, hlong, hend⟩ := summer_bounds (yearOf (t.seconds + standard))
  have heq : yearOf c.toSeconds = c.date.year := yearOf_eq hyear.1 hyear.2
  rw [offsetAt_summer _ rfl] at hshown
  split at hshown
  · next hsummer =>
    -- In summer the clock is an hour ahead, still in the year of standard time.
    have hsame : yearOf c.toSeconds = yearOf (t.seconds + standard) :=
      yearOf_eq (by omega) (by omega)
    rw [← heq, hsame]
    omega
  · next hwinter =>
    rw [← heq, hshown]
    omega

/-- What clocks show is not skipped either when the clock is put back to the start of the second, the
minute or the day. -/
lemma putBack_not_skipped {standard : Int} {t : Instant} {c : Civil} {unit : Int}
    (hunit : unit = 1 ∨ unit = 60 ∨ unit = 86400) (hdate : c.date = ((summer standard).civil t).date)
    (hclock : c.toSeconds =
      ((summer standard).civil t).toSeconds - ((summer standard).civil t).toSeconds % unit) :
    c.toSeconds < summerStart c.date.year ∨ summerStart c.date.year + 3600 ≤ c.toSeconds := by
  have hshown := @civil_not_skipped standard t _ rfl
  obtain ⟨htwo, _⟩ := summer_bounds ((summer standard).civil t).date.year
  rw [hdate]
  -- The skipped hour starts and ends on whole minutes, and not at midnight.
  rcases hunit with rfl | rfl | rfl <;> omega

/-- What clocks show means an instant at which they show it, also when the clock is put back to the start of
the second, the minute or the day. -/
theorem exists_instant? {zone : Zone} {t : Instant} {c : Civil} {unit : Int} (hc : c.Valid)
    (hunit : unit = 1 ∨ unit = 60 ∨ unit = 86400) (hdate : c.date = (zone.civil t).date)
    (hclock : c.toSeconds = (zone.civil t).toSeconds - (zone.civil t).toSeconds % unit) :
    ∃ t', zone.instant? c = some t' ∧ zone.civil t' = c := by
  have hskip : ¬ zone.SkipsFrom c := by
    intro hskip
    cases zone with
    | fixed => exact hskip
    | summer standard =>
      have hstart : c.toSeconds = summerStart c.date.year := hskip
      have hback := putBack_not_skipped hunit hdate hclock
      omega
  cases hoffset : zone.offsetOf? c with
  | some offset =>
    have hinstant : zone.instant? c = some (Instant.ofCivil c offset) := by
      rw [instant?, hoffset]
      rfl
    exact ⟨_, hinstant, civil_instant? hc hskip hinstant⟩
  | none =>
    obtain ⟨standard, rfl, hstart, hend⟩ := of_offsetOf?_eq_none hoffset
    have hback := putBack_not_skipped hunit hdate hclock
    omega

/-! ### The years of clocks -/

lemma yearStart_mono {year year' : Int} (h : year ≤ year') : yearStart year ≤ yearStart year' := by
  have hdays := daysBeforeYear_mono h
  simp only [yearStart]
  omega

/-- Where local clocks show a year of four digits, they cover the instant. -/
theorem covers_of_year {zone : Zone} {t : Instant} (hfirst : 0 ≤ (zone.civil t).date.year)
    (hlast : (zone.civil t).date.year ≤ 9999) : zone.Covers t := by
  obtain ⟨hstart, hend⟩ := yearOf_toSeconds (valid_civil zone t)
  rw [toSeconds_civil] at hstart hend
  have hzero := yearStart_mono hfirst
  have hlimit : yearStart ((zone.civil t).date.year + 1) ≤ yearStart 10000 := yearStart_mono (by omega)
  have hyear0 : yearStart 0 = -62167219200 := by decide
  have hyear10000 : yearStart 10000 = 253402300800 := by decide
  have hrangeStart : (Instant.ofDate ⟨-262143, 1, 1⟩).seconds = -8334601228800 := by decide
  have hrangeEnd : (Instant.ofDate ⟨262143, 1, 1⟩).seconds = 8210266876800 := by decide
  have hseconds : (t.addSeconds (zone.offsetAt t)).seconds = t.seconds + zone.offsetAt t := rfl
  constructor <;> omega

end Zone

end BuildVersion.Calendar
