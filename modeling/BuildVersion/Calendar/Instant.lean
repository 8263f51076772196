import BuildVersion.Calendar.Date

/-!
# Points in time

An `Instant` is a point in time, a `Timestamp` is one seen from an offset to UTC, and a `Civil` time
is what a calendar and a clock show. Leap seconds are kept, but not counted by clocks: second 60
follows second 59 as the nanoseconds from 10^9 on. Main statements: the civil time of an instant
gives the instant back.
-/

namespace BuildVersion.Calendar

/-- The seconds of a day without leap seconds. -/
def secondsPerDay : Int := 86400

/-- One second in nanoseconds. -/
def nanosPerSecond : Nat := 1000000000

/-- A point in time: the seconds since 1970 began in UTC and the nanoseconds after them. From 10^9
on, the nanoseconds lie in a leap second that follows the second. -/
structure Instant where
  seconds : Int
  nanos : Nat := 0
deriving DecidableEq

/-- What a calendar and a clock show. In a leap second, `second` is the one before and `nanos` is at
least 10^9. -/
structure Civil where
  date : Date
  hour : Nat := 0
  minute : Nat := 0
  second : Nat := 0
  nanos : Nat := 0
deriving DecidableEq

/-- An instant, and the seconds by which local clocks are ahead of UTC. -/
structure Timestamp where
  instant : Instant
  offset : Int
deriving DecidableEq

namespace Civil

/-- A civil time that calendars and clocks know. -/
def Valid (c : Civil) : Prop :=
  c.date.Valid ∧ c.hour < 24 ∧ c.minute < 60 ∧ c.second < 60

instance (c : Civil) : Decidable c.Valid := by unfold Valid; infer_instance

/-- The civil time that a clock shows after so many seconds since 1970 began for it. -/
def ofSeconds (seconds : Int) (nanos : Nat) : Civil :=
  let rest := (seconds % secondsPerDay).toNat
  { date := Date.ofDayNumber (seconds / secondsPerDay)
    hour := rest / 3600
    minute := rest / 60 % 60
    second := rest % 60
    nanos }

/-- The seconds that a clock has counted since 1970 began for it. -/
def toSeconds (c : Civil) : Int :=
  c.date.dayNumber * secondsPerDay + (c.hour * 3600 + c.minute * 60 + c.second : Nat)

theorem toSeconds_ofSeconds (seconds : Int) (nanos : Nat) :
    (ofSeconds seconds nanos).toSeconds = seconds := by
  simp only [ofSeconds, toSeconds, Date.dayNumber_ofDayNumber, secondsPerDay]
  omega

theorem valid_ofSeconds (seconds : Int) (nanos : Nat) : (ofSeconds seconds nanos).Valid := by
  refine ⟨Date.valid_ofDayNumber _, ?_, ?_, ?_⟩ <;> simp only [ofSeconds, secondsPerDay] <;> omega

theorem ofSeconds_toSeconds {c : Civil} (h : c.Valid) : ofSeconds c.toSeconds c.nanos = c := by
  obtain ⟨date, hour, minute, second, nanos⟩ := c
  obtain ⟨hd, h₁, h₂, h₃⟩ := h
  simp only at hd h₁ h₂ h₃
  have hday : toSeconds ⟨date, hour, minute, second, nanos⟩ / secondsPerDay = date.dayNumber := by
    simp only [toSeconds, secondsPerDay]; omega
  have hrest : (toSeconds ⟨date, hour, minute, second, nanos⟩ % secondsPerDay).toNat =
      hour * 3600 + minute * 60 + second := by
    simp only [toSeconds, secondsPerDay]; omega
  simp only [ofSeconds, hday, hrest, Date.ofDayNumber_dayNumber hd, mk.injEq, true_and, and_true]
  omega

end Civil

namespace Instant

/-- What clocks ahead of UTC by `offset` seconds show. -/
def civil (t : Instant) (offset : Int := 0) : Civil :=
  Civil.ofSeconds (t.seconds + offset) t.nanos

/-- The instant at which clocks ahead of UTC by `offset` seconds show a civil time. -/
def ofCivil (c : Civil) (offset : Int := 0) : Instant :=
  { seconds := c.toSeconds - offset, nanos := c.nanos }

/-- The start of a day in UTC. -/
def ofDate (d : Date) : Instant := ofCivil { date := d }

/-- Whether an instant lies in a leap second. -/
def isLeapSecond (t : Instant) : Prop := nanosPerSecond ≤ t.nanos

instance (t : Instant) : Decidable t.isLeapSecond := by unfold isLeapSecond; infer_instance

/-- All nanoseconds since 1970 began in UTC; a leap second counts as one second more. -/
def totalNanos (t : Instant) : Int := t.seconds * nanosPerSecond + t.nanos

/-- The whole seconds from one instant to another, cut towards zero. -/
def secondsSince (t start : Instant) : Int :=
  (t.totalNanos - start.totalNanos).tdiv nanosPerSecond

/-- The instant so many seconds later. -/
def addSeconds (t : Instant) (seconds : Int) : Instant :=
  { t with seconds := t.seconds + seconds }

/-- Times cover the years -262143 to 262142. -/
def InRange (t : Instant) : Prop :=
  (ofDate ⟨-262143, 1, 1⟩).seconds ≤ t.seconds ∧ t.seconds < (ofDate ⟨262143, 1, 1⟩).seconds

instance (t : Instant) : Decidable t.InRange := by unfold InRange; infer_instance

theorem ofCivil_civil (t : Instant) (offset : Int) : ofCivil (t.civil offset) offset = t := by
  obtain ⟨seconds, nanos⟩ := t
  simp only [ofCivil, civil, Civil.toSeconds_ofSeconds, mk.injEq]
  exact ⟨by omega, rfl⟩

theorem civil_ofCivil {c : Civil} (h : c.Valid) (offset : Int) :
    (ofCivil c offset).civil offset = c := by
  simp only [ofCivil, civil, Int.sub_add_cancel]
  exact Civil.ofSeconds_toSeconds h

end Instant

namespace Timestamp

/-- What local clocks show. -/
def civil (t : Timestamp) : Civil := t.instant.civil t.offset

/-- The local year. -/
def year (t : Timestamp) : Int := t.civil.date.year

end Timestamp

end BuildVersion.Calendar
